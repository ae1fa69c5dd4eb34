import LanguageServer.Log.Directive

/-! Which events are logged. A filter is a list of directives, separated by commas. Of the directives that
    concern an event, the one that says most about it decides; where none concerns it, it is not logged. -/

namespace LanguageServer.Log

/-- The directives of a filter. -/
abbrev Filter := List Directive

namespace Filter

/-- A filter by its text: the directives between its commas. -/
def read (text : String) : Except Directive.Misread Filter :=
  ((text.toList.splitOn ',').filter (!·.isEmpty)).mapM Directive.ofText

/-- A filter by its text; a malformed text has events logged from `info` on. None if the text would have to
    be cut inside a character. -/
def ofText? (text : String) : Option Filter :=
  match read text with
  | .ok f => some f
  | .error .malformed => some [{ level := some .info }]
  | .error .torn => none

/-- The directive that decides about an event: the one that says most, and of equal ones the last. -/
def deciding? (f : Filter) (e : Event) : Option Directive :=
  (f.filter (·.concerns e)).foldl
    (fun best d =>
      match best with
      | none => some d
      | some b => if b.yields d then some d else best)
    none

/-- The event is logged. -/
def admits (f : Filter) (e : Event) : Bool := ((deciding? f e).map (·.admits e)).getD false

end Filter

end LanguageServer.Log
