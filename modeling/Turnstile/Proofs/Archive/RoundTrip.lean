import Mathlib.Data.Nat.Digits.Defs
import Turnstile.Archive.Batch
import Turnstile.Proofs.Json.Reading
import Turnstile.Proofs.Json.Yields
import Turnstile.Proofs.Time.Rfc3339Text

/-!
# Archive bodies read back what they write

`bodyText` writes a list of entries and `parseBody` reads a body. Reading a
written body gives the entries with their instants cut to the whole second
(`parseBody_bodyText`), provided every entry is `Storable`: its count is an
unsigned 64-bit word, a leap second ends a minute, and its UTC year has four
digits. The first two hold of every entry a body reads as (`parseBody_readable`),
so the entries of any body, written again, read back the same way whenever
their years have four digits (`body_round_trip`).

The year condition is needed: a year outside `0..9999` is written with a sign
and more or fewer digits, and the reader of instants wants exactly four
(`far_year_breaks_round_trip`).
-/

namespace Turnstile.Archive

open Json Reader

/-! ## Counts -/

theorem le_ofDigitChars (ds : List Char) (acc : Nat) : acc ≤ Nat.ofDigitChars 10 ds acc := by
  induction ds generalizing acc with
  | nil => simp [Nat.ofDigitChars]
  | cons d ds ih =>
    have := ih (10 * acc + (d.toNat - '0'.toNat))
    simp only [Nat.ofDigitChars, List.foldl_cons] at this ⊢
    omega

/-- Digits whose value stays below a word are read as that value. -/
theorem wordDigits_eq (ds : List Char) (acc : Nat) (hd : ∀ d ∈ ds, d.isDigit = true)
    (hb : Nat.ofDigitChars 10 ds acc < wordBound) :
    wordDigits ds acc = .ok (Nat.ofDigitChars 10 ds acc) := by
  induction ds generalizing acc with
  | nil => rfl
  | cons d ds ih =>
    have hnext : Nat.ofDigitChars 10 (d :: ds) acc =
        Nat.ofDigitChars 10 ds (acc * 10 + (d.toNat - '0'.toNat)) := by
      simp only [Nat.ofDigitChars, List.foldl_cons, Nat.mul_comm]
    rw [hnext] at hb ⊢
    -- the running value never passes the final one, so no prefix overflows
    have hle := le_ofDigitChars ds (acc * 10 + (d.toNat - '0'.toNat))
    simp only [wordDigits, hd d (by simp), Bool.not_true, Bool.false_eq_true, if_false]
    rw [if_neg (by omega)]
    exact ih _ (fun x hx => hd x (by simp [hx])) hb

/-- A word written in decimal is read back. -/
theorem parseCount_toString (n : Nat) (h : n < wordBound) : parseCount (toString n) = .ok n := by
  have hd : ∀ d ∈ Nat.toDigits 10 n, d.isDigit = true :=
    fun d hd => Nat.isDigit_of_mem_toDigits (by decide) (by decide) hd
  have hval := wordDigits_eq (Nat.toDigits 10 n) 0 hd (by rw [Nat.ofDigitChars_ten_toDigits]; exact h)
  rw [Nat.ofDigitChars_ten_toDigits] at hval
  unfold parseCount
  rw [Nat.toString_eq_ofList_toDigits, String.toList_ofList]
  obtain ⟨d, ds, hds⟩ : ∃ d ds, Nat.toDigits 10 n = d :: ds := by
    cases h' : Nat.toDigits 10 n with
    | nil => exact absurd h' Nat.toDigits_ne_nil
    | cons d ds => exact ⟨d, ds, rfl⟩
  -- the first digit is not a sign, so only the plain digits case applies
  have hplus : d ≠ '+' := by
    intro hp
    have := hd d (by simp [hds])
    rw [hp] at this
    exact absurd this (by decide)
  rw [hds] at hval ⊢
  split
  · rename_i heq
    cases heq
  · rename_i heq
    cases heq
    exact absurd rfl hplus
  · rename_i heq
    cases heq
    exact absurd rfl hplus
  · exact hval

theorem wordDigits_lt {ds : List Char} {acc n : Nat} (hacc : acc < wordBound)
    (h : wordDigits ds acc = .ok n) : n < wordBound := by
  induction ds generalizing acc with
  | nil =>
    cases h
    exact hacc
  | cons d ds ih =>
    unfold wordDigits at h
    dsimp only at h
    split at h
    · cases h
    · split at h
      · cases h
      · exact ih (by omega) h

/-- Every count read is a word. -/
theorem parseCount_lt {s : String} {n : Nat} (h : parseCount s = .ok n) : n < wordBound := by
  unfold parseCount at h
  split at h
  · cases h
  · cases h
  · exact wordDigits_lt (by decide) h
  · exact wordDigits_lt (by decide) h

/-! ## Fields -/

/-- A string field followed by what is done with its text. -/
theorem reads_string_bind {β : Type} {k : String → Reader β} {s : String} {x : β}
    (h : Reads (k s) [] x) : Reads (string >>= k) (quote s).toList x := by
  simpa only [List.append_nil] using (reads_string "a string" s).bind h

theorem reads_resourceReader (g : Segment) : Reads resourceReader (quote g.text).toList g := by
  apply reads_string_bind
  simp only [(Segment.parse_eq_ok_iff _ _).2 rfl]
  exact reads_pure g

theorem reads_countReader {n : Nat} (h : n < wordBound) :
    Reads countReader (quote (toString n)).toList n := by
  apply reads_string_bind
  simp only [parseCount_toString n h]
  exact reads_pure n

theorem reads_instantReader {t : Instant} (hleap : t.LeapAtMinuteEnd) (hy : t.HasFourDigitYear) :
    Reads instantReader (quote t.wholeText).toList t.wholeSecond := by
  apply reads_string_bind
  simp only [Instant.ofRfc3339_wholeText t hleap hy]
  exact reads_pure _

theorem yields_countReader : Yields countReader (· < wordBound) := by
  unfold countReader
  refine (yields_any _).bind fun s _ => ?_
  split
  · rename_i n hn
    exact yields_pure (parseCount_lt hn)
  · exact yields_failUnplaced _

theorem yields_instantReader : Yields instantReader Instant.LeapAtMinuteEnd := by
  unfold instantReader
  refine (yields_any _).bind fun s _ => ?_
  split
  · rename_i t ht
    exact yields_pure (Instant.ofRfc3339_leap s t ht)
  · exact yields_failUnplaced _

/-! ## Entries -/

/-- The entry with its instant cut to the whole second. -/
def Entry.wholeSecond (e : Entry) : Entry := { e with lastSynced := e.lastSynced.wholeSecond }

/-- What every entry read satisfies: its count is a word and a leap second ends a minute. -/
def Entry.Readable (e : Entry) : Prop := e.count < wordBound ∧ e.lastSynced.LeapAtMinuteEnd

instance (e : Entry) : Decidable e.Readable := inferInstanceAs (Decidable (_ ∧ _))

/-- An entry its text gives back: readable, and its UTC year has four digits. -/
def Entry.Storable (e : Entry) : Prop := e.Readable ∧ e.lastSynced.HasFourDigitYear

instance (e : Entry) : Decidable e.Storable := inferInstanceAs (Decidable (_ ∧ _))

/-- The text of one entry in a body. -/
def Entry.text (e : Entry) : String :=
  "\x7b\"newsID\":" ++ Json.quote e.resource.text ++ ",\"accessCount\":\"" ++ toString e.count ++
    "\",\"lastSynced\":" ++ Json.quote e.lastSynced.wholeText ++ "\x7d"

theorem bodyText_eq (entries : List Entry) :
    bodyText entries = "[" ++ ",".intercalate (entries.map Entry.text) ++ "]" := rfl

/-- Digits need no escaping. -/
theorem escaped_digits (ds : List Char) (h : ∀ d ∈ ds, d.isDigit = true) : escaped ds = ds := by
  induction ds with
  | nil => rfl
  | cons d ds ih =>
    have hd := Rfc3339.toNat_of_isDigit (h d (by simp))
    have hq : d ≠ '"' := by rintro rfl; simp at hd
    have hb : d ≠ '\\' := by rintro rfl; simp at hd
    simp only [escaped, List.flatMap_cons] at ih ⊢
    rw [escapeChar_of_plain d hq hb (by omega), ih (fun x hx => h x (by simp [hx]))]
    simp

/-- The fields of an entry as its text writes them: each key and, after a colon, its value. -/
def Entry.fields (e : Entry) : List (String × List Char) :=
  [("newsID", ':' :: (quote e.resource.text).toList),
   ("accessCount", ':' :: (quote (toString e.count)).toList),
   ("lastSynced", ':' :: (quote e.lastSynced.wholeText).toList)]

theorem quote_toString (n : Nat) :
    (quote (toString n)).toList = '"' :: ((toString n).toList ++ ['"']) := by
  rw [quote_toList, Nat.toString_eq_ofList_toDigits, String.toList_ofList,
    escaped_digits _ (fun d hd => Nat.isDigit_of_mem_toDigits (by decide) (by decide) hd)]

theorem Entry.text_toList (e : Entry) :
    e.text.toList = '\x7b' :: (fieldsText e.fields ++ ['\x7d']) := by
  have h1 : ("\x7b\"newsID\":" : String).toList = '\x7b' :: ((quote "newsID").toList ++ [':']) := by
    decide
  have h2 : (",\"accessCount\":\"" : String).toList =
      ',' :: ((quote "accessCount").toList ++ [':', '"']) := by decide
  have h3 : ("\",\"lastSynced\":" : String).toList =
      '"' :: ',' :: ((quote "lastSynced").toList ++ [':']) := by decide
  simp only [Entry.text, String.toList_append, h1, h2, h3, fieldsText, Entry.fields, List.map_cons,
    List.map_nil, quote_toString]
  simp [List.intercalate_cons_cons]

/-- A storable entry's text reads as the entry cut to the whole second. -/
theorem reads_entry (e : Entry) (he : e.Storable) : Reads Entry.reader e.text.toList e.wholeSecond := by
  obtain ⟨⟨hc, hleap⟩, hy⟩ := he
  rw [Entry.text_toList]
  unfold Entry.reader
  apply reads_record
  -- the object form visits the three fields in the order the text writes them
  refine ReadsUpTo.bind (a := (some e.resource, some e.count, some e.lastSynced.wholeSecond))
    (readsUpTo_fields _ (@Visits.cons _ _ _ (some e.resource, none, none) _ _ _ _ ?_
      (@Visits.cons _ _ _ (some e.resource, some e.count, none) _ _ _ _ ?_
        (Visits.cons ?_ (.nil _))))) ?_
  · rw [if_pos rfl]
    exact (Reads.once "newsID" (reads_resourceReader e.resource)).bind_pure _
  · rw [if_neg (by decide), if_pos rfl]
    exact (Reads.once "accessCount" (reads_countReader hc)).bind_pure _
  · rw [if_neg (by decide), if_neg (by decide), if_pos rfl]
    exact (Reads.once "lastSynced" (reads_instantReader hleap hy)).bind_pure _
  · exact reads_pure _

/-- Every entry read is readable, from an object or from an array. -/
theorem yields_entry : Yields Entry.reader Entry.Readable := by
  unfold Entry.reader
  refine yields_record _ ?_ ?_
  · -- the array form: the count and the instant are what their element readers give
    refine (yields_element true (yields_any resourceReader)).bind fun o ho =>
      (yields_present (yields_tooShort _ _) o ho).bind fun _ _ => ?_
    refine (yields_element false yields_countReader).bind fun o ho =>
      (yields_present (yields_tooShort _ _) o ho).bind fun _ hc => ?_
    refine (yields_element false yields_instantReader).bind fun o ho =>
      (yields_present (yields_tooShort _ _) o ho).bind fun _ ht => ?_
    exact yields_pure ⟨hc, ht⟩
  · -- the object form: every field visit keeps the count and instant slots readable
    refine (yields_fields _ (fun st : Option Segment × Option Nat × Option Instant =>
        (∀ n ∈ st.2.1, n < wordBound) ∧ ∀ t ∈ st.2.2, t.LeapAtMinuteEnd) ?_ _
        ⟨by simp, by simp⟩).bind fun st hst => ?_
    · intro k st ⟨hc, ht⟩
      split
      · exact (yields_once _ _ (yields_any _)).bind fun _ _ => yields_pure ⟨hc, ht⟩
      split
      · exact (yields_once _ _ yields_countReader).bind fun _ h => yields_pure ⟨h, ht⟩
      split
      · exact (yields_once _ _ yields_instantReader).bind fun _ h => yields_pure ⟨hc, h⟩
      · exact (yields_value (yields_any _)).bind fun _ _ => yields_pure ⟨hc, ht⟩
    · obtain ⟨r, c, t⟩ := st
      obtain ⟨hc, ht⟩ := hst
      refine (yields_present (yields_missing _) r fun _ _ => trivial).bind fun _ _ => ?_
      refine (yields_present (yields_missing _) c hc).bind fun _ hc => ?_
      exact (yields_present (yields_missing _) t ht).bind fun _ ht => yields_pure ⟨hc, ht⟩

/-! ## Bodies -/

theorem bodyText_toList (entries : List Entry) :
    (bodyText entries).toList =
      '[' :: (List.intercalate [','] (entries.map fun e => e.text.toList) ++ [']']) := by
  rw [bodyText_eq]
  simp [String.toList_append, String.toList_intercalate, List.map_map]
  rfl

/-- A body of storable entries reads as the entries cut to the whole second. -/
theorem parseBody_bodyText (entries : List Entry) (h : ∀ e ∈ entries, e.Storable) :
    parseBody (bodyText entries) = .ok (entries.map Entry.wholeSecond) := by
  have hw : Written Entry.reader (entries.map fun e => (e.text.toList, e.wholeSecond)) := by
    intro p hp
    obtain ⟨e, he, rfl⟩ := List.mem_map.mp hp
    have hread := reads_entry e (h e he)
    dsimp only
    rw [Entry.text_toList] at hread ⊢
    exact ⟨hread, '\x7b', _, rfl, by decide, by decide, by decide⟩
  have hr := reads_list Entry.reader _ hw
  simp only [List.map_map, Function.comp_def] at hr
  have hb : Reads (list Entry.reader) (bodyText entries).toList (entries.map Entry.wholeSecond) := by
    rw [bodyText_toList]
    exact hr
  exact whole_of_reads hb

/-- Every entry a body reads as is readable. -/
theorem parseBody_readable {body : String} {es : List Entry} (h : parseBody body = .ok es) :
    ∀ e ∈ es, e.Readable :=
  (yields_list yields_entry).of_whole h

/-- Entries whose UTC years have four digits are given back by their body text, cut to the
whole second, when each is readable, and in particular when they are what some body reads as. -/
theorem body_round_trip (entries : List Entry)
    (hy : ∀ e ∈ entries, e.lastSynced.HasFourDigitYear) :
    ((∀ e ∈ entries, e.Readable) →
      parseBody (bodyText entries) = .ok (entries.map Entry.wholeSecond)) ∧
    (∀ body, parseBody body = .ok entries →
      parseBody (bodyText entries) = .ok (entries.map Entry.wholeSecond)) := by
  have hrt : (∀ e ∈ entries, e.Readable) →
      parseBody (bodyText entries) = .ok (entries.map Entry.wholeSecond) :=
    fun hr => parseBody_bodyText entries fun e he => ⟨hr e he, hy e he⟩
  exact ⟨hrt, fun _ h => hrt (parseBody_readable h)⟩

/-- A resource of the examples below. -/
def sampleResource : Segment := ⟨"R10", by decide, by decide⟩

/-- An entry synchronised at 12:34:56.5 UTC on 1 March 2024. -/
def syncedEntry : Entry :=
  ⟨sampleResource, 7, ⟨Civil.daysFrom 2024 3 1, 45296, 500000000, by decide, by decide⟩⟩

theorem body_round_trip_synced :
    (∀ e ∈ [syncedEntry], e.Storable) ∧
      parseBody (bodyText [syncedEntry]) = .ok [syncedEntry.wholeSecond] :=
  ⟨by decide, (body_round_trip [syncedEntry] (by decide)).1 (by decide)⟩

/-- An entry synchronised a quarter second into the year 10000. -/
def farEntry : Entry :=
  ⟨sampleResource, 2, ⟨Civil.daysFrom 10000 1 1, 0, 250000000, by decide, by decide⟩⟩

/-- The year 10000 is written `+10000`, which the reader of instants refuses: the body of an
entry that every other condition allows does not read back. -/
theorem far_year_breaks_round_trip :
    farEntry.Readable ∧ (parseBody (bodyText [farEntry])).isOk = false := by
  decide +kernel

end Turnstile.Archive
