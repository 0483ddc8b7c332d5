import Turnstile.Ident.Segment
import Turnstile.Time.Instant

/-!
# Object names

Archive objects are named by subject and drain time,
`<subject>/detail-log-YYYY-MM-DDTHH-MM-SS.json`, with `-<attempt>` before
`.json` when an earlier attempt found the name taken. Shipped log files are
named `logs/YYYY/MM/<stem>_YYYYMMDD_HHMMSS<extension>`, where the extension is
the text from the last `.` of the file name on, unless that `.` starts the
name. Both use the shown second, so a leap second reads 60.
-/

namespace Turnstile.Naming

/-- `YYYY`, `MM`, `DD`, `HH`, `MM`, `SS` of an instant. -/
def fields (t : Instant) : String × String × String × String × String × String :=
  let (y, mo, d) := t.date
  let (h, mi, s) := t.clock
  (Instant.yearText y, Instant.padded 2 mo, Instant.padded 2 d, Instant.padded 2 h,
    Instant.padded 2 mi, Instant.padded 2 s)

/-- The name of an archive object. -/
def archiveObject (subject : Segment) (t : Instant) (attempt : Nat) : String :=
  let (y, mo, d, h, mi, s) := fields t
  subject.text ++ "/detail-log-" ++ y ++ "-" ++ mo ++ "-" ++ d ++ "T" ++ h ++ "-" ++ mi ++ "-" ++ s ++
    (if attempt = 0 then "" else "-" ++ toString attempt) ++ ".json"

/-- A file name cut before its last `.`, unless the name starts with it. -/
def stemAndExtension (name : String) : String × String :=
  let cs := name.toList
  match cs.reverse.findIdx? (· = '.') with
  | some i =>
    let k := cs.length - 1 - i
    if k = 0 then (name, "") else (String.ofList (cs.take k), String.ofList (cs.drop k))
  | none => (name, "")

/-- The name of a shipped log object. -/
def logObject (fileName : String) (t : Instant) : String :=
  let (y, mo, d, h, mi, s) := fields t
  let (stem, ext) := stemAndExtension fileName
  "logs/" ++ y ++ "/" ++ mo ++ "/" ++ stem ++ "_" ++ y ++ mo ++ d ++ "_" ++ h ++ mi ++ s ++ ext

end Turnstile.Naming
