import Turnstile.Ident.CounterKey

/-!
# The counter-key codec is exact

`CounterKey.decode` accepts exactly the texts that `CounterKey.encode` writes,
and reads each back as the pair it was written from (`decode_eq_ok_iff`).
Segments hold no `/`, so the `/`-separated pieces of an encoded key are the two
fixed pieces and the two tagged segments, whatever else the segments contain
(`splitOn_encode`); conversely the pieces of an accepted text join back into the
encoding of what was read (`pieces_of_decode`). Hence every accepted text lies in
the counter namespace, and no two pairs share a key.
-/

namespace Turnstile

namespace Text

/-- The split of a character list is the standard library's `List.splitOn`. -/
theorem splitOn_eq (sep : Char) (s : List Char) : splitOn sep s = s.splitOn sep := by
  induction s with
  | nil => rfl
  | cons c cs ih =>
    rw [List.splitOn_cons_eq_if_modifyHead, ← ih]
    by_cases hc : c = sep
    · simp [splitOn, hc]
    · obtain ⟨w, ws, hw⟩ := List.exists_cons_of_ne_nil (splitOn_ne_nil sep cs)
      simp [splitOn, hc, hw]

end Text

namespace CounterKey

/-- The namespace is the two fixed pieces followed by the resource tag. -/
theorem namespaceText_toList :
    namespaceText.toList = "endpoint:".toList ++ '/' :: ("detail".toList ++ '/' :: "news:".toList) := by
  decide

/-- An encoded key, piece by piece. -/
theorem encode_toList (k : CounterKey) :
    k.encode.toList = "endpoint:".toList ++ '/' :: ("detail".toList ++ '/' ::
      (("news:".toList ++ k.resource.text.toList) ++ '/' ::
        ("user:".toList ++ k.subject.text.toList))) := by
  have hu : ("/user:" : String).toList = '/' :: "user:".toList := by decide
  simp [encode, String.toList_append, namespaceText_toList, hu]

/-- An encoded key splits into exactly four pieces, since neither segment holds a `/`. -/
theorem splitOn_encode (k : CounterKey) :
    Text.splitOn '/' k.encode.toList =
      ["endpoint:".toList, "detail".toList, "news:".toList ++ k.resource.text.toList,
        "user:".toList ++ k.subject.text.toList] := by
  have hr := k.resource.slash_not_mem
  have hs := k.subject.slash_not_mem
  rw [Text.splitOn_eq, encode_toList, List.splitOn_append_cons_self_of_not_mem (by decide),
    List.splitOn_append_cons_self_of_not_mem (by decide),
    List.splitOn_append_cons_self_of_not_mem (by simp [hr]),
    List.splitOn_eq_singleton (by simp [hs])]

/-- Decoding an encoded key gives its pair back. -/
theorem decode_encode (k : CounterKey) : decode k.encode = .ok k := by
  have hr : Segment.parse (String.ofList k.resource.text.toList) = .ok k.resource := by
    rw [String.ofList_toList, Segment.parse_eq_ok_iff]
  have hs : Segment.parse (String.ofList k.subject.text.toList) = .ok k.subject := by
    rw [String.ofList_toList, Segment.parse_eq_ok_iff]
  simp only [decode, splitOn_encode]
  rw [if_neg (by simp), (Text.dropLead?_eq_some_iff _ _ _).2 rfl,
    (Text.dropLead?_eq_some_iff _ _ _).2 rfl]
  simp only [hr, hs]

/-- An accepted text has the four pieces of the key it decodes to. -/
theorem pieces_of_decode {key : String} {k : CounterKey} (h : decode key = .ok k) :
    Text.splitOn '/' key.toList =
      ["endpoint:".toList, "detail".toList, "news:".toList ++ k.resource.text.toList,
        "user:".toList ++ k.subject.text.toList] := by
  unfold decode at h
  split at h
  next p0 p1 p2 p3 hsplit =>
    split at h
    next => cases h
    next hlit =>
      simp only [ne_eq, not_or, Decidable.not_not] at hlit
      split at h
      next => cases h
      next r hr =>
        split at h
        next => cases h
        next s hs =>
          split at h
          next => cases h
          next res hres =>
            split at h
            next => cases h
            next sub hsub =>
              cases h
              rw [Segment.parse_eq_ok_iff] at hres hsub
              rw [(Text.dropLead?_eq_some_iff _ _ _).1 hr,
                (Text.dropLead?_eq_some_iff _ _ _).1 hs] at hsplit
              rw [hsplit, hlit.1, hlit.2, hres, hsub]
              simp only [String.toList_ofList]
  next => cases h

/-- An accepted text is the encoding of what it decodes to: there is no second spelling. -/
theorem encode_of_decode {key : String} {k : CounterKey} (h : decode key = .ok k) :
    k.encode = key := by
  apply String.toList_inj.1
  rw [← Text.join_splitOn '/' key.toList, pieces_of_decode h,
    ← Text.join_splitOn '/' k.encode.toList, splitOn_encode]

/-- Decoding succeeds exactly on encoded keys, and then gives the encoded pair. -/
theorem decode_eq_ok_iff (key : String) (k : CounterKey) :
    decode key = .ok k ↔ k.encode = key :=
  ⟨encode_of_decode, fun h => h ▸ decode_encode k⟩

/-- Every encoded key starts with the counter namespace. -/
theorem namespace_prefix_encode (k : CounterKey) : namespaceText.toList <+: k.encode.toList := by
  simp only [encode, String.toList_append, List.append_assoc]
  exact List.prefix_append _ _

/-- No two pairs share a key. -/
theorem encode_injective : Function.Injective encode := by
  intro a b h
  have hb : decode a.encode = .ok b := by
    rw [h]
    exact decode_encode b
  rw [decode_encode] at hb
  exact Except.ok.inj hb

/-- The codec is an exact bijection between pairs and accepted texts: decoding accepts
precisely the encoded keys and reads each back as its pair, every accepted text lies in the
counter namespace, and distinct pairs have distinct keys. -/
theorem codec_exact :
    (∀ (key : String) (k : CounterKey), decode key = .ok k ↔ k.encode = key) ∧
    (∀ (key : String) (k : CounterKey), decode key = .ok k →
      namespaceText.toList <+: key.toList) ∧
    Function.Injective encode := by
  refine ⟨decode_eq_ok_iff, ?_, encode_injective⟩
  intro key k h
  rw [← encode_of_decode h]
  exact namespace_prefix_encode k

end CounterKey

end Turnstile
