import LanguageServer.Content

/-! Capabilities that a server registers with the client later on. -/

namespace LanguageServer

open Content

/-- A method to register, under an id. -/
structure Registration where
  id : String
  method : String
  registerOptions : Option Json := none
deriving DecidableEq

/-- The form of `Registration`. -/
def Registration.schema : Schema :=
  .record "Registration" <|
    .required "id" (.plain .string) <|
    .required "method" (.plain .string) <|
    .optional "registerOptions" (.plain .object) <|
    .nil

instance : Content Registration where
  schema := Registration.schema
  pack x := (x.id, x.method, x.registerOptions, ())
  unpack := fun (id, method, registerOptions, _) => { id, method, registerOptions }
  unpack_pack _ := rfl
  pack_unpack _ := rfl

namespace Registration

/-- A method without options. -/
def new (id method : String) : Registration := { id, method }

/-- The method with options. -/
def withOptions (r : Registration) (options : Json) : Registration :=
  { r with registerOptions := some options }

end Registration

/-- Some methods to register. -/
structure RegistrationParams where
  registrations : List Registration
deriving DecidableEq

/-- The form of `RegistrationParams`. -/
def RegistrationParams.schema : Schema :=
  .record "RegistrationParams" <|
    .required "registrations" (.many Registration.schema) <|
    .nil

instance : Content RegistrationParams where
  schema := RegistrationParams.schema
  pack x := (packMany x.registrations, ())
  unpack := fun (registrations, _) => { registrations := unpackMany registrations }
  unpack_pack _ := by simp
  pack_unpack := fun (_, _) => by simp; rfl

/-- A method that is not to be registered any more. -/
structure Unregistration where
  id : String
  method : String
deriving DecidableEq

/-- The form of `Unregistration`. -/
def Unregistration.schema : Schema :=
  .record "Unregistration" <|
    .required "id" (.plain .string) <|
    .required "method" (.plain .string) <|
    .nil

instance : Content Unregistration where
  schema := Unregistration.schema
  pack x := (x.id, x.method, ())
  unpack := fun (id, method, _) => { id, method }
  unpack_pack _ := rfl
  pack_unpack _ := rfl

/-- Some methods that are not to be registered any more. The protocol spells the key this way. -/
structure UnregistrationParams where
  unregistrations : List Unregistration
deriving DecidableEq

/-- The form of `UnregistrationParams`. -/
def UnregistrationParams.schema : Schema :=
  .record "UnregistrationParams" <|
    .required "unregisterations" (.many Unregistration.schema) <|
    .nil

instance : Content UnregistrationParams where
  schema := UnregistrationParams.schema
  pack x := (packMany x.unregistrations, ())
  unpack := fun (unregistrations, _) => { unregistrations := unpackMany unregistrations }
  unpack_pack _ := by simp
  pack_unpack := fun (_, _) => by simp; rfl

end LanguageServer
