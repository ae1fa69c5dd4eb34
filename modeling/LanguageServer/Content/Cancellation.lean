import LanguageServer.Content

/-! The cancelling of requests, by either side. -/

namespace LanguageServer

open Content

/-- The request with an id need not be answered any more. -/
structure CancelParams where
  id : RequestId
deriving DecidableEq

/-- The form of `CancelParams`. -/
def CancelParams.schema : Schema :=
  .record "CancelParams" <|
    .required "id" (.nested .requestId) <|
    .nil

instance : Content CancelParams where
  schema := CancelParams.schema
  pack x := (pack x.id, ())
  unpack := fun (id, _) => { id := unpack id }
  unpack_pack _ := rfl
  pack_unpack _ := rfl

end LanguageServer
