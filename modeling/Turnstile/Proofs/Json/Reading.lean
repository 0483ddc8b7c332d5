import Turnstile.Json.Decode
import Turnstile.Json.Value

/-!
# Reading text a writer produced

`Reads r input a` says that from any cursor whose remaining text starts with
`input`, the reader `r` succeeds with `a` and leaves the rest; `ReadsUpTo` is
the same for readers that stop at a closing character they only look at. Both
compose through `bind`. The lemmas give them for strings with their escapes,
records, fields visited in the order they are written, and arrays, and
`whole_of_reads` turns them into a result of `Reader.whole`.
-/

namespace Turnstile.Json

namespace Cursor

@[simp] theorem advance_rest (c : Cursor) : c.advance.rest = c.rest.tail := by
  unfold advance
  split
  · simp_all
  · rename_i ch cs h
    split <;> simp [h]

theorem repeat_advance_rest (n : Nat) (c : Cursor) : (Nat.repeat advance n c).rest = c.rest.drop n := by
  induction n with
  | zero => rfl
  | succ n ih => simp [Nat.repeat, ih, List.tail_drop]

end Cursor

namespace Reader

variable {α β : Type}

theorem run_bind (x : Reader α) (f : α → Reader β) (c : Cursor) :
    ((x >>= f).run).run c = match (x.run).run c with
      | (.ok a, c') => ((f a).run).run c'
      | (.error e, c') => (.error e, c') := by
  simp only [ExceptT.run_bind, StateT.run_bind]
  rcases h : (x.run).run c with ⟨_ | a, c'⟩ <;> rfl

theorem run_get (c : Cursor) : ((get : Reader Cursor).run).run c = (.ok c, c) := rfl

theorem run_peek (c : Cursor) : (peek.run).run c = (.ok c.rest.head?, c) := rfl

theorem run_bump (c : Cursor) : (bump.run).run c = (.ok (), c.advance) := rfl

theorem run_attempt (r : Reader α) (c : Cursor) :
    ((attempt r).run).run c = match (r.run).run c with
      | (.ok a, c') => (.ok (.ok a), c')
      | (.error e, c') => (.ok (.error e), c') := by
  have hmap : StateT.run (ExceptT.run (Except.ok <$> r : Reader (Except Failure α))) c =
      (((r.run).run c).1.map Except.ok, ((r.run).run c).2) := by
    simp only [ExceptT.run_map, StateT.run_map]
    rfl
  show StateT.run (ExceptT.run (ExceptT.tryCatch (Except.ok <$> r) _)) c = _
  simp only [ExceptT.tryCatch, ExceptT.run_mk, StateT.run_bind]
  rw [show StateT.run (Except.ok <$> r : Reader (Except Failure α)) c =
    StateT.run (ExceptT.run (Except.ok <$> r : Reader (Except Failure α))) c from rfl, hmap]
  rcases (r.run).run c with ⟨_ | a, c'⟩ <;> rfl

/-- From every cursor whose rest starts with `input`, the reader succeeds with `a` and stops
right after `input`. -/
def Reads (r : Reader α) (input : List Char) (a : α) : Prop :=
  ∀ c rest, c.rest = input ++ rest → ∃ c', (r.run).run c = (.ok a, c') ∧ c'.rest = rest

theorem Reads.bind {x : Reader α} {f : α → Reader β} {i j : List Char} {a : α} {b : β}
    (hx : Reads x i a) (hf : Reads (f a) j b) : Reads (x >>= f) (i ++ j) b := by
  intro c rest hc
  obtain ⟨c1, h1, hr1⟩ := hx c (j ++ rest) (by rw [hc, List.append_assoc])
  obtain ⟨c2, h2, hr2⟩ := hf c1 rest hr1
  exact ⟨c2, by rw [run_bind, h1]; exact h2, hr2⟩

theorem reads_pure (a : α) : Reads (pure a : Reader α) [] a :=
  fun c _ hc => ⟨c, rfl, hc⟩

theorem Reads.map {x : Reader α} {i : List Char} {a : α} (f : α → β) (hx : Reads x i a) :
    Reads (f <$> x) i (f a) := by
  have h := Reads.bind (f := fun a => (pure (f a) : Reader β)) hx (reads_pure (f a))
  rw [List.append_nil] at h
  simpa only [map_eq_pure_bind] using h

theorem Reads.bind_pure {x : Reader α} {i : List Char} {a : α} (hx : Reads x i a) (g : α → β) :
    Reads (x >>= fun a => pure (g a)) i (g a) := by
  simpa only [List.append_nil] using Reads.bind (f := fun a => pure (g a)) hx (reads_pure (g a))

theorem reads_bump (ch : Char) : Reads bump [ch] () := by
  intro c rest hc
  exact ⟨c.advance, rfl, by simp [hc]⟩

/-- From every cursor whose rest is `input` and then `stop`, the reader succeeds with `a` and
stops at `stop`: readers that end by looking at what closes them. -/
def ReadsUpTo (r : Reader α) (input : List Char) (stop : Char) (a : α) : Prop :=
  ∀ c rest, c.rest = input ++ stop :: rest → ∃ c', (r.run).run c = (.ok a, c') ∧ c'.rest = stop :: rest

/-- A reader that stops before its closing, followed by steps that read nothing more. -/
theorem ReadsUpTo.bind {x : Reader α} {f : α → Reader β} {i : List Char} {stop : Char} {a : α}
    {b : β} (hx : ReadsUpTo x i stop a) (hf : Reads (f a) [] b) : ReadsUpTo (x >>= f) i stop b := by
  intro c rest hc
  obtain ⟨c1, h1, hr1⟩ := hx c rest hc
  obtain ⟨c2, h2, hr2⟩ := hf c1 (stop :: rest) hr1
  exact ⟨c2, by rw [run_bind, h1]; exact h2, hr2⟩

/-- A character that `skipBlanks` does not skip. -/
def Solid (ch : Char) : Prop := ch ≠ ' ' ∧ ch ≠ '\n' ∧ ch ≠ '\t' ∧ ch ≠ '\r'

instance (ch : Char) : Decidable (Solid ch) := inferInstanceAs (Decidable (_ ∧ _ ∧ _ ∧ _))

theorem skipBlanks_run {c : Cursor} {ch : Char} {rest : List Char} (hc : c.rest = ch :: rest)
    (hs : Solid ch) : (skipBlanks.run).run c = (.ok (some ch), c) := by
  obtain ⟨h1, h2, h3, h4⟩ := hs
  have hd : c.rest.dropWhile (fun ch => ch = ' ' || ch = '\n' || ch = '\t' || ch = '\r') = c.rest := by
    rw [hc, List.dropWhile_cons_of_neg (by simp [h1, h2, h3, h4])]
  have hget : ((get : Reader Cursor).run).run c = (.ok c, c) := rfl
  simp only [skipBlanks, run_bind, hget]
  simp only [hd, Nat.sub_self]
  rw [hc]
  rfl

theorem skipBlanks_run_nil {c : Cursor} (hc : c.rest = []) : (skipBlanks.run).run c = (.ok none, c) := by
  simp only [skipBlanks, run_bind, run_get, hc, List.dropWhile_nil, List.length_nil, Nat.sub_self]
  rfl

theorem valueStart_run {c : Cursor} {ch : Char} {rest : List Char} (hc : c.rest = ch :: rest)
    (hs : Solid ch) : (valueStart.run).run c = (.ok ch, c) := by
  simp only [valueStart, run_bind, skipBlanks_run hc hs]
  rfl

theorem solid_quote : Solid '"' := by decide

theorem hexValue_digitChar : ∀ k, k < 16 → hexValue (Nat.digitChar k) = some k := by
  decide

/-- Four hexadecimal digits `00hl` read as the number `16 * h + l`. -/
theorem reads_hexQuad (n : Nat) (hn : n < 256) :
    Reads hexQuad ['0', '0', Nat.digitChar (n / 16), Nat.digitChar (n % 16)] n := by
  intro c rest hc
  have hhi := hexValue_digitChar (n / 16) (by omega)
  have hlo := hexValue_digitChar (n % 16) (by omega)
  have hget : ((get : Reader Cursor).run).run c = (.ok c, c) := rfl
  have hfour : c.rest.take 4 = ['0', '0', Nat.digitChar (n / 16), Nat.digitChar (n % 16)] := by
    rw [hc]; rfl
  refine ⟨Nat.repeat Cursor.advance 4 c, ?_, ?_⟩
  · have hzero : hexValue '0' = some 0 := by decide
    have hmap : ['0', '0', Nat.digitChar (n / 16), Nat.digitChar (n % 16)].mapM hexValue =
        some [0, 0, n / 16, n % 16] := by
      simp [List.mapM_cons, hzero, hhi, hlo]
    have hsum : ((0 * 16 + 0) * 16 + n / 16) * 16 + n % 16 = n := by omega
    simp only [hexQuad, run_bind, hget, hfour, List.length_cons, List.length_nil, Nat.lt_irrefl,
      and_false, if_false, hmap, hsum]
    rfl
  · rw [Cursor.repeat_advance_rest, hc]
    rfl

/-- The one-letter escapes and the characters they stand for. -/
def shortEscapes : List (Char × Char) :=
  [('"', '"'), ('\\', '\\'), ('b', '\x08'), ('f', '\x0c'), ('n', '\n'), ('r', '\r'), ('t', '\t')]

theorem reads_escape_short {x y : Char} (h : (x, y) ∈ shortEscapes) :
    Reads (escape true) [x] (some y) := by
  simp only [shortEscapes, List.mem_cons, Prod.mk.injEq, List.not_mem_nil, or_false] at h
  rcases h with ⟨rfl, rfl⟩ | ⟨rfl, rfl⟩ | ⟨rfl, rfl⟩ | ⟨rfl, rfl⟩ | ⟨rfl, rfl⟩ | ⟨rfl, rfl⟩ |
      ⟨rfl, rfl⟩ <;>
  · intro c rest hc
    refine ⟨c.advance, ?_, by simp [hc]⟩
    simp only [escape, run_bind, run_peek, hc, List.cons_append, List.head?_cons]
    simp only [Char.reduceEq, true_or, or_true, or_self, ↓reduceIte, run_bind, run_bump]
    rfl

theorem reads_escape_unicode (ch : Char) (h : ch.toNat < 0x20) :
    Reads (escape true) ['u', '0', '0', Nat.digitChar (ch.toNat / 16), Nat.digitChar (ch.toNat % 16)]
      (some ch) := by
  intro c rest hc
  obtain ⟨c2, hq, hr2⟩ := reads_hexQuad ch.toNat (by omega) c.advance rest (by simp [hc])
  refine ⟨c2, ?_, hr2⟩
  simp only [escape, run_bind, run_peek, hc, List.cons_append, List.head?_cons]
  simp only [Char.reduceEq, or_self, ↓reduceIte, run_bind, run_bump]
  have h1 : ¬ (56320 ≤ ch.toNat ∧ ch.toNat ≤ 57343) := by omega
  have h2 : ¬ (55296 ≤ ch.toNat ∧ ch.toNat ≤ 56319) := by omega
  simp only [hq, Bool.not_true, Bool.false_eq_true, if_false, h1, h2, Char.ofNat_toNat]
  rfl

/-- A character is written as itself, or as a backslash and an escape that reads back as it. -/
theorem escapeChar_reads (ch : Char) :
    ((escapeChar ch).toList = [ch] ∧ ch ≠ '"' ∧ ch ≠ '\\' ∧ ¬ ch.toNat < 0x20) ∨
      ∃ e, (escapeChar ch).toList = '\\' :: e ∧ Reads (escape true) e (some ch) := by
  unfold escapeChar
  split
  · subst_vars
    exact .inr ⟨['"'], by decide, reads_escape_short (by decide)⟩
  split
  · subst_vars
    exact .inr ⟨['\\'], by decide, reads_escape_short (by decide)⟩
  split
  · subst_vars
    exact .inr ⟨['n'], by decide, reads_escape_short (by decide)⟩
  split
  · subst_vars
    exact .inr ⟨['r'], by decide, reads_escape_short (by decide)⟩
  split
  · subst_vars
    exact .inr ⟨['t'], by decide, reads_escape_short (by decide)⟩
  split
  · subst_vars
    exact .inr ⟨['b'], by decide, reads_escape_short (by decide)⟩
  split
  · subst_vars
    exact .inr ⟨['f'], by decide, reads_escape_short (by decide)⟩
  split
  · rename_i hlt
    refine .inr ⟨_, ?_, reads_escape_unicode ch hlt⟩
    simp [String.toList_append]
  · rename_i h1 h2 _ _ _ _ _ h8
    exact .inl ⟨by simp, h1, h2, h8⟩

/-- A printable character other than a quote or a backslash is written as itself. -/
theorem escapeChar_of_plain (c : Char) (h1 : c ≠ '"') (h2 : c ≠ '\\') (h3 : 0x20 ≤ c.toNat) :
    escapeChar c = c.toString := by
  have h4 : c ≠ '\n' := by rintro rfl; simp at h3
  have h5 : c ≠ '\r' := by rintro rfl; simp at h3
  have h6 : c ≠ '\t' := by rintro rfl; simp at h3
  have h7 : c ≠ '\x08' := by rintro rfl; simp at h3
  have h8 : c ≠ '\x0c' := by rintro rfl; simp at h3
  simp [escapeChar, h1, h2, h4, h5, h6, h7, h8, Nat.not_lt.mpr h3]

/-- The escaped characters of a text, as they stand between the quotes of its literal. -/
def escaped (cs : List Char) : List Char := cs.flatMap fun ch => (escapeChar ch).toList

/-- The rest of a string literal, its escaped characters and the closing quote, reads back as
the text, after the characters already read. -/
theorem reads_textLoop (cs : List Char) (fuel : Nat) (acc : List Char) (h : cs.length < fuel) :
    Reads (textLoop true fuel acc) (escaped cs ++ ['"']) (String.ofList (acc.reverse ++ cs)) := by
  induction cs generalizing fuel acc with
  | nil =>
    obtain ⟨f, rfl⟩ : ∃ f, fuel = f + 1 := ⟨fuel - 1, by simp at h; omega⟩
    intro c rest hc
    refine ⟨c.advance, ?_, by simp [hc, escaped]⟩
    simp only [escaped, List.flatMap_nil, List.nil_append, List.cons_append] at hc
    simp only [textLoop, run_bind, run_peek, hc, List.head?_cons, List.append_nil]
    rfl
  | cons ch cs ih =>
    obtain ⟨f, rfl⟩ : ∃ f, fuel = f + 1 := ⟨fuel - 1, by simp at h; omega⟩
    have hf : cs.length < f := by simp at h; omega
    have hnext := ih f (ch :: acc) hf
    simp only [List.reverse_cons, List.append_assoc, List.singleton_append] at hnext
    intro c rest hc
    rcases escapeChar_reads ch with ⟨hplain, hq, hb, hctl⟩ | ⟨e, hesc, he⟩
    · simp only [escaped, List.flatMap_cons, hplain, List.cons_append, List.append_assoc] at hc
      obtain ⟨c', hrun, hrest⟩ := hnext c.advance rest (by simp [hc, escaped])
      refine ⟨c', ?_, hrest⟩
      simp only [textLoop, run_bind, run_peek, hc, List.head?_cons]
      rw [if_neg hctl, run_bind, run_bump]
      exact hrun
    · simp only [escaped, List.flatMap_cons, hesc, List.cons_append, List.append_assoc] at hc
      obtain ⟨c1, h1, hr1⟩ := he c.advance (escaped cs ++ '"' :: rest) (by simp [hc, escaped])
      obtain ⟨c', hrun, hrest⟩ := hnext c1 rest (by simp [hr1])
      refine ⟨c', ?_, hrest⟩
      simp only [textLoop, run_bind, run_peek, hc, List.head?_cons, run_bump, h1]
      exact hrun

theorem length_le_escaped (cs : List Char) : cs.length ≤ (escaped cs).length := by
  induction cs with
  | nil => simp [escaped]
  | cons ch cs ih =>
    have : 0 < (escapeChar ch).toList.length := by
      rcases escapeChar_reads ch with ⟨h, -⟩ | ⟨e, h, -⟩ <;> simp [h]
    simp only [escaped, List.flatMap_cons, List.length_append, List.length_cons] at ih ⊢
    omega

theorem reads_text (cs : List Char) : Reads text (escaped cs ++ ['"']) (String.ofList cs) := by
  intro c rest hc
  have hlen := length_le_escaped cs
  have hloop := reads_textLoop cs (c.rest.length + 1) [] (by simp [hc]; omega) c rest hc
  simpa only [text, run_bind, run_get, List.reverse_nil, List.nil_append] using hloop

theorem quote_toList (s : String) : (quote s).toList = '"' :: (escaped s.toList ++ ['"']) := by
  simp [quote, escaped, String.toList_append, String.toList_join, List.flatMap_map]

theorem reads_string (wanted s : String) : Reads (string wanted) (quote s).toList s := by
  intro c rest hc
  rw [quote_toList, List.cons_append] at hc
  obtain ⟨c', h, hr⟩ := reads_text s.toList c.advance rest (by simp [hc])
  refine ⟨c', ?_, hr⟩
  simp only [string, run_bind, valueStart_run hc solid_quote, if_pos, run_bump]
  simpa only [String.ofList_toList] using h

theorem reads_colon : Reads colon [':'] () := by
  intro c rest hc
  refine ⟨c.advance, ?_, by simp [hc]⟩
  simp only [colon, run_bind, skipBlanks_run hc (by decide)]
  rfl

theorem Reads.value {r : Reader α} {i : List Char} {a : α} (h : Reads r i a) :
    Reads (value r) (':' :: i) a :=
  reads_colon.bind (f := fun _ => r) h

theorem Reads.once {r : Reader α} {i : List Char} {a : α} (name : String) (h : Reads r i a) :
    Reads (once name none r) (':' :: i) (some a) :=
  h.value.map some

theorem reads_closeObject : Reads closeObject ['\x7d'] () := by
  intro c rest hc
  refine ⟨c.advance, ?_, by simp [hc]⟩
  simp only [closeObject, run_bind, skipBlanks_run hc (by decide)]
  rfl

theorem reads_closeArray : Reads closeArray [']'] () := by
  intro c rest hc
  refine ⟨c.advance, ?_, by simp [hc]⟩
  simp only [closeArray, run_bind, skipBlanks_run hc (by decide)]
  rfl

/-- Contents read up to their closing, then the closing. -/
theorem reads_enclosed {contents : Reader α} {closing : Reader Unit} {i : List Char} {stop : Char}
    {a : α} (h : ReadsUpTo contents i stop a) (hc : Reads closing [stop] ()) :
    Reads (enclosed contents closing) (i ++ [stop]) a := by
  intro c rest hr
  obtain ⟨c1, h1, hr1⟩ := h c rest (by simp [hr])
  obtain ⟨c2, h2, hr2⟩ := hc c1 rest (by simp [hr1])
  refine ⟨c2, ?_, hr2⟩
  simp only [enclosed, run_bind, run_attempt, h1, h2]
  rfl

/-- A record written as an object. -/
theorem reads_record (name : String) (bySeq byMap : Reader α) {i : List Char} {a : α}
    (h : ReadsUpTo byMap i '\x7d' a) :
    Reads (record name bySeq byMap) ('\x7b' :: (i ++ ['\x7d'])) a := by
  intro c rest hc
  obtain ⟨c', h1, hr⟩ := reads_enclosed h reads_closeObject c.advance rest (by simp [hc])
  refine ⟨c', ?_, hr⟩
  simp only [record, run_bind, valueStart_run hc (by decide)]
  show ((bump >>= fun _ => enclosed byMap closeObject : Reader α).run).run c = _
  rw [run_bind, run_bump]
  exact h1

/-- The first key of an object. -/
theorem reads_key_first (k : String) : Reads (key true) (quote k).toList (some k) := by
  intro c rest hc
  have hc' := hc
  rw [quote_toList, List.cons_append] at hc'
  obtain ⟨c', h, hr⟩ := reads_text k.toList c.advance rest (by simp [hc'])
  refine ⟨c', ?_, hr⟩
  simp only [key, run_bind, skipBlanks_run hc' solid_quote]
  show ((bump >>= fun _ => some <$> text : Reader (Option String)).run).run c = _
  rw [run_bind, run_bump]
  simp only [ExceptT.run_map, StateT.run_map, h, String.ofList_toList]
  rfl

/-- A later key of an object, after its comma. -/
theorem reads_key_next (k : String) : Reads (key false) (',' :: (quote k).toList) (some k) := by
  intro c rest hc
  have hq := quote_toList k
  have hc1 : c.advance.rest = '"' :: (escaped k.toList ++ ['"'] ++ rest) := by
    simp [hc, hq]
  obtain ⟨c', h, hr⟩ := reads_text k.toList c.advance.advance rest (by
    rw [Cursor.advance_rest, hc1]; simp)
  refine ⟨c', ?_, hr⟩
  simp only [key, run_bind, skipBlanks_run (by rw [hc, List.cons_append]) (by decide : Solid ','),
    Bool.false_eq_true, if_false, run_bump, skipBlanks_run hc1 solid_quote]
  simp only [ExceptT.run_map, StateT.run_map, h, String.ofList_toList]
  rfl

/-- The end of an object, seen and not consumed. -/
theorem key_end_run {c : Cursor} {rest : List Char} (hc : c.rest = '\x7d' :: rest) (first : Bool) :
    ((key first).run).run c = (.ok none, c) := by
  simp only [key, run_bind, skipBlanks_run hc (by decide)]
  rfl

/-- Each element after the first brings at least its comma. -/
theorem length_le_commas {β : Type} (ps : List β) (g : β → List Char) :
    ps.length ≤ (ps.flatMap fun p => ',' :: g p).length := by
  induction ps with
  | nil => simp
  | cons q qs ih =>
    simp only [List.flatMap_cons, List.length_append, List.length_cons]
    omega

theorem intercalate_comma (x : List Char) (xs : List (List Char)) :
    List.intercalate [','] (x :: xs) = x ++ xs.flatMap (',' :: ·) := by
  induction xs generalizing x with
  | nil => simp
  | cons y ys ih => simp [List.intercalate_cons_cons, ih]

section Fields

variable {σ : Type} (visit : String → σ → Reader σ)

/-- One field of an object: its key, read after a comma unless it is the first, and its value,
read by the visitor. -/
theorem fields_go_step (f : Nat) (first : Bool) {s s' : σ} {k : String} {v : List Char}
    (hv : Reads (visit k s) v s') (c : Cursor) (more : List Char)
    (hc : c.rest = (if first then [] else [',']) ++ (quote k).toList ++ v ++ more) :
    ∃ c', c'.rest = more ∧
      ((fields.go visit (f + 1) first s).run).run c = ((fields.go visit f false s').run).run c' := by
  have hk : Reads (key first) ((if first then [] else [',']) ++ (quote k).toList) (some k) := by
    cases first
    · exact reads_key_next k
    · exact reads_key_first k
  obtain ⟨c1, h1, hr1⟩ := hk c (v ++ more) (by rw [hc, List.append_assoc])
  obtain ⟨c2, h2, hr2⟩ := hv c1 more hr1
  refine ⟨c2, hr2, ?_⟩
  rw [fields.go, run_bind, h1]
  simp only [run_bind, h2]

/-- The end of an object ends the walk. -/
theorem fields_go_end (f : Nat) (first : Bool) (s : σ) {c : Cursor} {rest : List Char}
    (hc : c.rest = '\x7d' :: rest) :
    ((fields.go visit (f + 1) first s).run).run c = (.ok s, c) := by
  rw [fields.go, run_bind, key_end_run hc]
  rfl

/-- The fields of an object, each read by the visitor from the state the earlier ones left. -/
inductive Visits : σ → List (String × List Char) → σ → Prop
  | nil (s : σ) : Visits s [] s
  | cons {s s' s'' : σ} {k : String} {v : List Char} {rest : List (String × List Char)} :
      Reads (visit k s) v s' → Visits s' rest s'' → Visits s ((k, v) :: rest) s''

/-- The text of an object's fields: each key and what follows it, separated by commas. -/
def fieldsText (kvs : List (String × List Char)) : List Char :=
  List.intercalate [','] (kvs.map fun kv => (quote kv.1).toList ++ kv.2)

/-- Later fields, each after its comma, up to the closing brace. -/
theorem fields_go_rest {s s' : σ} {kvs : List (String × List Char)} (h : Visits visit s kvs s')
    (f : Nat) (hf : kvs.length < f) :
    ReadsUpTo (fields.go visit f false s)
      (kvs.flatMap fun kv => ',' :: ((quote kv.1).toList ++ kv.2)) '\x7d' s' := by
  induction h generalizing f with
  | nil s =>
    obtain ⟨g, rfl⟩ := Nat.exists_eq_add_one.2 (Nat.zero_lt_of_lt hf)
    intro c rest hc
    exact ⟨c, fields_go_end visit g false s (by simpa using hc), by simpa using hc⟩
  | @cons s0 s1 s2 k v kvs hv _ ih =>
    obtain ⟨g, rfl⟩ := Nat.exists_eq_add_one.2 (Nat.zero_lt_of_lt hf)
    intro c rest hc
    obtain ⟨c1, hr1, h1⟩ := fields_go_step visit g false hv c
      ((kvs.flatMap fun kv => ',' :: ((quote kv.1).toList ++ kv.2)) ++ '\x7d' :: rest) (by
        rw [hc]; simp)
    obtain ⟨c2, h2, hr2⟩ := ih g (by simp at hf; omega) c1 rest hr1
    exact ⟨c2, h1.trans h2, hr2⟩

/-- The fields of an object read up to its closing brace. -/
theorem readsUpTo_fields {s s' : σ} {kvs : List (String × List Char)} (h : Visits visit s kvs s') :
    ReadsUpTo (fields visit s) (fieldsText kvs) '\x7d' s' := by
  intro c rest hc
  simp only [fields, run_bind, run_get]
  cases h with
  | nil s =>
    exact ⟨c, fields_go_end visit _ true s (by simpa [fieldsText] using hc),
      by simpa [fieldsText] using hc⟩
  | @cons _ s1 _ k v kvs' hv hrest =>
    simp only [fieldsText, List.map_cons, intercalate_comma, List.flatMap_map] at hc
    have hcount := length_le_commas kvs' fun kv => (quote kv.1).toList ++ kv.2
    obtain ⟨c1, hr1, h1⟩ := fields_go_step visit c.rest.length true hv c
      ((kvs'.flatMap fun kv => ',' :: ((quote kv.1).toList ++ kv.2)) ++ '\x7d' :: rest) (by
        rw [hc]; simp)
    obtain ⟨c2, h2, hr2⟩ := fields_go_rest visit hrest c.rest.length (by
      rw [hc]; simp only [List.length_append, List.length_cons]; omega) c1 rest hr1
    exact ⟨c2, h1.trans h2, hr2⟩

end Fields

/-- A text that starts a value inside an array: no blank, no comma, no closing bracket. -/
def StartsElement (i : List Char) : Prop := ∃ x t, i = x :: t ∧ Solid x ∧ x ≠ ']' ∧ x ≠ ','

/-- An element of an array, after a comma unless it is the first. -/
theorem reads_element (first : Bool) {r : Reader α} {i : List Char} {a : α} (hr : Reads r i a)
    (hi : StartsElement i) :
    Reads (element first r) ((if first then [] else [',']) ++ i) (some a) := by
  obtain ⟨x, t, rfl, hs, hb, hcomma⟩ := hi
  intro c rest hc
  cases first
  · simp only [Bool.false_eq_true, if_false, List.cons_append] at hc
    have hc1 : c.advance.rest = x :: (t ++ rest) := by simp [hc]
    obtain ⟨c', h1, hr1⟩ := hr c.advance rest hc1
    refine ⟨c', ?_, hr1⟩
    simp only [element, run_bind, skipBlanks_run hc (by decide : Solid ',')]
    rw [if_neg (by decide), run_bind, run_bump]
    simp only [run_bind, skipBlanks_run hc1 hs, ExceptT.run_map, StateT.run_map, h1]
    rfl
  · simp only [if_true, List.nil_append, List.cons_append] at hc
    obtain ⟨c', h1, hr1⟩ := hr c rest (by simp [hc])
    refine ⟨c', ?_, hr1⟩
    simp only [element, run_bind, skipBlanks_run hc hs, ↓reduceIte, pure_bind, ExceptT.run_map,
      StateT.run_map, h1]
    rfl

/-- The end of an array, seen and not consumed. -/
theorem element_end_run (first : Bool) (r : Reader α) {c : Cursor} {rest : List Char}
    (hc : c.rest = ']' :: rest) : ((element first r).run).run c = (.ok none, c) := by
  simp only [element, run_bind, skipBlanks_run hc (by decide)]
  rfl

section List

variable (r : Reader α)

/-- Elements that each read back as their value and start a value. -/
def Written (items : List (List Char × α)) : Prop := ∀ p ∈ items, Reads r p.1 p.2 ∧ StartsElement p.1

/-- The later elements of an array, each after its comma, up to the closing bracket. -/
theorem list_go_rest (items : List (List Char × α)) (h : Written r items) (f : Nat) (acc : List α)
    (hf : items.length < f) :
    ReadsUpTo (list.go r f false acc) (items.flatMap fun p => ',' :: p.1) ']'
      (acc.reverse ++ items.map Prod.snd) := by
  induction items generalizing f acc with
  | nil =>
    obtain ⟨g, rfl⟩ := Nat.exists_eq_add_one.2 (Nat.zero_lt_of_lt hf)
    intro c rest hc
    refine ⟨c, ?_, by simpa using hc⟩
    rw [list.go, run_bind, element_end_run false r (by simpa using hc)]
    simp
    rfl
  | cons p ps ih =>
    obtain ⟨g, rfl⟩ := Nat.exists_eq_add_one.2 (Nat.zero_lt_of_lt hf)
    have hp := h p (by simp)
    have hps : Written r ps := fun q hq => h q (by simp [hq])
    intro c rest hc
    obtain ⟨c1, h1, hr1⟩ := reads_element false hp.1 hp.2 c
      ((ps.flatMap fun p => ',' :: p.1) ++ ']' :: rest) (by simp [hc])
    obtain ⟨c2, h2, hr2⟩ := ih hps g (p.2 :: acc) (by simp at hf; omega) c1 rest hr1
    refine ⟨c2, ?_, hr2⟩
    rw [list.go, run_bind, h1]
    simpa using h2

/-- An array of written elements, separated by commas, reads back as their values. -/
theorem reads_list (items : List (List Char × α)) (h : Written r items) :
    Reads (list r) ('[' :: (List.intercalate [','] (items.map Prod.fst) ++ [']']))
      (items.map Prod.snd) := by
  -- the elements are read up to the closing bracket, with fuel for one more look than elements
  have hinner : ReadsUpTo (do list.go r ((← get).rest.length + 1) true [])
      (List.intercalate [','] (items.map Prod.fst)) ']' (items.map Prod.snd) := by
    intro c rest hc
    cases items with
    | nil =>
      refine ⟨c, ?_, by simpa using hc⟩
      simp only [run_bind, run_get]
      rw [list.go, run_bind, element_end_run true r (by simpa using hc)]
      rfl
    | cons p ps =>
      have hp := h p (by simp)
      have hps : Written r ps := fun q hq => h q (by simp [hq])
      simp only [List.map_cons, intercalate_comma, List.flatMap_map] at hc
      have hcount := length_le_commas ps Prod.fst
      have hlen : ps.length < c.rest.length := by
        rw [hc]
        simp only [List.length_append, List.length_cons]
        omega
      obtain ⟨c1, h1, hr1⟩ := reads_element true hp.1 hp.2 c
        ((ps.flatMap fun p => ',' :: p.1) ++ ']' :: rest) (by simp [hc])
      obtain ⟨c2, h2, hr2⟩ := list_go_rest r ps hps c.rest.length [p.2] hlen c1 rest hr1
      refine ⟨c2, ?_, hr2⟩
      simp only [run_bind, run_get]
      rw [list.go, run_bind, h1]
      simpa using h2
  intro c rest hc
  obtain ⟨c', h1, hr⟩ := reads_enclosed hinner reads_closeArray c.advance rest (by simp [hc])
  refine ⟨c', ?_, hr⟩
  simp only [list, run_bind, valueStart_run hc (by decide)]
  show ((bump >>= fun _ => enclosed (do list.go r ((← get).rest.length + 1) true []) closeArray :
    Reader (List α)).run).run c = _
  rw [run_bind, run_bump]
  exact h1

end List

/-- A whole text that the reader reads back, with nothing after it. -/
theorem whole_of_reads {r : Reader α} {s : String} {a : α} (h : Reads r s.toList a) :
    whole r s = .ok a := by
  obtain ⟨c', h1, hr⟩ := h (Cursor.start s) [] (by simp [Cursor.start])
  simp only [whole, read, run_bind, h1, finish, skipBlanks_run_nil hr]
  rfl

end Reader

end Turnstile.Json
