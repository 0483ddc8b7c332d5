import Turnstile.Ident.Error
import Turnstile.Json.Decode

/-!
# Subject status

The status of a credential says whether its subject is registered and whether
it is entitled to premium content. Its wire form is the object
`{"exists":E,"premium":P}` with the fields in that order; the cache stores
statuses in this form. `Status.reader` reads it back: from an object with both
fields (in any order, others ignored, none twice) or from the array
`[exists, premium]`.
-/

namespace Turnstile

/-- Whether a subject is known and whether it is entitled. -/
structure Status where
  registered : Bool
  entitled : Bool
  deriving DecidableEq, Repr, Inhabited

namespace Status

/-- The status of a credential that names no subject. -/
def unknown : Status := ⟨false, false⟩

/-- The status of a registered subject. -/
def ofRegistered (entitled : Bool) : Status := ⟨true, entitled⟩

/-- The wire text. -/
def toText (s : Status) : String :=
  "\x7b\"exists\":" ++ toString s.registered ++ ",\"premium\":" ++ toString s.entitled ++ "\x7d"

open Json Reader in
/-- Reads the wire form of a status. -/
def reader : Reader Status :=
  record "StatusRecord"
    (do
      let wanted := "struct StatusRecord with 2 elements"
      let e ← present (tooShort 0 wanted) (← element true bool)
      let p ← present (tooShort 1 wanted) (← element false bool)
      return ⟨e, p⟩)
    (do
      let (e, p) ← fields (fun k (st : Option Bool × Option Bool) =>
          if k = "exists" then return ((← once "exists" st.1 bool), st.2)
          else if k = "premium" then return (st.1, (← once "premium" st.2 bool))
          else do value skipValue; return st) (none, none)
      let e ← present (missing "exists") e
      let p ← present (missing "premium") p
      return ⟨e, p⟩)

/-- Reads a status from its wire text. -/
def ofText (s : String) : Except CoreError Status :=
  match Json.Reader.whole reader s with
  | .ok st => .ok st
  | .error e => .error (.decoding e.message)

end Status

end Turnstile
