import TextTemplate.Text.Slice

/-!
# Byte offsets and concatenation

`Text.takeBytes?`, `Text.dropBytes?` and `Text.cut?` walk a list of characters and count bytes. The
statements here say what they find in terms of concatenation: a text can be cut at an offset exactly
if it is the concatenation of a front of that many bytes and a rest, and what a span covers is the
middle of three parts. From this follows how a cut of a long text is a cut of one of its parts
(`cut?_append_append`), which is what carries a range of one text over to another one that holds the
same part somewhere else.

`IsBoundary` names the offsets at which a text can be cut, and `slice?_eq_none_iff` says that a span
in order has no text only if one of its ends is not such an offset.
-/

namespace TextTemplate.Text

/-! ## Sizes -/

@[simp] theorem byteSize_nil : byteSize [] = 0 := rfl

@[simp] theorem byteSize_cons (c : Char) (cs : List Char) :
    byteSize (c :: cs) = c.utf8Size + byteSize cs := rfl

/-- The sizes of the parts add up. -/
@[simp] theorem byteSize_append (as bs : List Char) :
    byteSize (as ++ bs) = byteSize as + byteSize bs := by
  induction as with
  | nil => rw [List.nil_append, byteSize_nil, Nat.zero_add]
  | cons a as ih => rw [List.cons_append, byteSize_cons, byteSize_cons, ih, Nat.add_assoc]

/-- Every character takes a byte, so only the empty list takes none. -/
theorem byteSize_eq_zero_iff {cs : List Char} : byteSize cs = 0 ↔ cs = [] := by
  cases cs with
  | nil => exact ⟨fun _ => rfl, fun _ => rfl⟩
  | cons c cs =>
    have hc := c.utf8Size_pos
    rw [byteSize_cons]
    constructor
    · intro h
      omega
    · intro h
      cases h

/-- **The size of a text is the size of its characters.** -/
theorem byteSize_toList (s : String) : byteSize s.toList = s.utf8ByteSize := by
  suffices h : ∀ cs : List Char, byteSize cs = (String.ofList cs).utf8ByteSize by
    rw [h s.toList, String.ofList_toList]
  intro cs
  induction cs with
  | nil => rfl
  | cons c cs ih =>
    rw [byteSize_cons, ih, ← List.singleton_append, String.ofList_append,
      String.utf8ByteSize_append, ← String.singleton_eq_ofList, String.utf8ByteSize_singleton]

/-! ## Fronts of one list -/

/-- Of two fronts of one list, the one with no more bytes is a front of the other. -/
theorem isPrefix_of_byteSize_le {as bs cs : List Char} (ha : as <+: cs) (hb : bs <+: cs)
    (h : byteSize as ≤ byteSize bs) : as <+: bs := by
  rcases List.prefix_or_prefix_of_prefix ha hb with hab | hba
  · exact hab
  · obtain ⟨rest, rfl⟩ := hba
    rw [byteSize_append] at h
    have hrest : rest = [] := byteSize_eq_zero_iff.mp (by omega)
    exact ⟨[], by rw [hrest, List.append_nil, List.append_nil]⟩

/-! ## What the cuts find -/

/-- Taking the bytes of a front takes the front. -/
@[simp] theorem takeBytes?_append (as bs : List Char) :
    takeBytes? (byteSize as) (as ++ bs) = some as := by
  induction as with
  | nil => rw [byteSize_nil, takeBytes?]
  | cons a as ih =>
    have ha := a.utf8Size_pos
    obtain ⟨n, hn⟩ : ∃ n, byteSize (a :: as) = n + 1 :=
      Nat.exists_eq_succ_of_ne_zero (by rw [byteSize_cons]; omega)
    have hsub : n + 1 - a.utf8Size = byteSize as := by rw [← hn, byteSize_cons]; omega
    rw [hn, List.cons_append, takeBytes?, if_pos (by rw [← hn, byteSize_cons]; omega), hsub, ih,
      Option.map_some]

/-- Dropping the bytes of a front leaves the rest. -/
@[simp] theorem dropBytes?_append (as bs : List Char) :
    dropBytes? (byteSize as) (as ++ bs) = some bs := by
  induction as with
  | nil => rw [byteSize_nil, dropBytes?, List.nil_append]
  | cons a as ih =>
    have ha := a.utf8Size_pos
    obtain ⟨n, hn⟩ : ∃ n, byteSize (a :: as) = n + 1 :=
      Nat.exists_eq_succ_of_ne_zero (by rw [byteSize_cons]; omega)
    have hsub : n + 1 - a.utf8Size = byteSize as := by rw [← hn, byteSize_cons]; omega
    rw [hn, List.cons_append, dropBytes?, if_pos (by rw [← hn, byteSize_cons]; omega), hsub, ih]

/-- **What is taken is a front of the given size**, and every front can be taken. -/
theorem takeBytes?_eq_some_iff {n : Nat} {cs as : List Char} :
    takeBytes? n cs = some as ↔ ∃ bs, cs = as ++ bs ∧ byteSize as = n := by
  constructor
  · intro h
    induction n, cs using takeBytes?.induct generalizing as with
    | case1 cs =>
      rw [takeBytes?, Option.some.injEq] at h
      exact ⟨cs, by rw [← h, List.nil_append], by rw [← h, byteSize_nil]⟩
    | case2 n =>
      rw [takeBytes?] at h
      cases h
    | case3 n c cs hle ih =>
      rw [takeBytes?, if_pos hle, Option.map_eq_some_iff] at h
      obtain ⟨as', h', rfl⟩ := h
      obtain ⟨bs, hbs, hsize⟩ := ih h'
      refine ⟨bs, ?_, ?_⟩
      · rw [hbs, List.cons_append]
      · rw [byteSize_cons, hsize]
        omega
    | case4 n c cs hgt =>
      rw [takeBytes?, if_neg hgt] at h
      cases h
  · rintro ⟨bs, rfl, rfl⟩
    exact takeBytes?_append as bs

/-- **What is left is the rest behind a front of the given size.** -/
theorem dropBytes?_eq_some_iff {n : Nat} {cs bs : List Char} :
    dropBytes? n cs = some bs ↔ ∃ as, cs = as ++ bs ∧ byteSize as = n := by
  constructor
  · intro h
    induction n, cs using dropBytes?.induct with
    | case1 cs =>
      rw [dropBytes?, Option.some.injEq] at h
      exact ⟨[], by rw [h, List.nil_append], rfl⟩
    | case2 n =>
      rw [dropBytes?] at h
      cases h
    | case3 n c cs hle ih =>
      rw [dropBytes?, if_pos hle] at h
      obtain ⟨as, has, hsize⟩ := ih h
      refine ⟨c :: as, ?_, ?_⟩
      · rw [has, List.cons_append]
      · rw [byteSize_cons, hsize]
        omega
    | case4 n c cs hgt =>
      rw [dropBytes?, if_neg hgt] at h
      cases h
  · rintro ⟨as, rfl, rfl⟩
    exact dropBytes?_append as bs

/-- **What a span covers is the middle of three parts**, the first of which ends where the span
starts. -/
theorem cut?_eq_some_iff {span : Span} {cs mid : List Char} :
    cut? span cs = some mid ↔
      ∃ as bs, cs = as ++ mid ++ bs ∧ byteSize as = span.start
        ∧ byteSize as + byteSize mid = span.stop := by
  constructor
  · intro h
    unfold cut? at h
    split at h
    · rename_i hle
      obtain ⟨rest, hdrop, htake⟩ := Option.bind_eq_some_iff.mp h
      obtain ⟨as, rfl, hstart⟩ := dropBytes?_eq_some_iff.mp hdrop
      obtain ⟨bs, rfl, hsize⟩ := takeBytes?_eq_some_iff.mp htake
      exact ⟨as, bs, (List.append_assoc as mid bs).symm, hstart, by omega⟩
    · cases h
  · rintro ⟨as, bs, rfl, hstart, hstop⟩
    unfold cut?
    have hsize : span.stop - span.start = byteSize mid := by omega
    rw [if_pos (by omega), ← hstart, List.append_assoc, dropBytes?_append, Option.bind_some, hstart,
      hsize, takeBytes?_append]

/-- The same for texts. -/
theorem slice?_eq_some_iff {span : Span} {s t : String} :
    slice? span s = some t ↔
      ∃ as bs, s.toList = as ++ t.toList ++ bs ∧ byteSize as = span.start
        ∧ byteSize as + byteSize t.toList = span.stop := by
  unfold slice?
  rw [Option.map_eq_some_iff, ← cut?_eq_some_iff]
  constructor
  · rintro ⟨mid, hcut, rfl⟩
    rw [String.toList_ofList]
    exact hcut
  · intro hcut
    exact ⟨t.toList, hcut, String.ofList_toList⟩

/-! ## Cuts of a part -/

/-- What a part in front of another one loses at its front, it loses with the other part behind. -/
theorem dropBytes?_append_of_le {n : Nat} {as : List Char} (bs : List Char) (h : n ≤ byteSize as) :
    dropBytes? n (as ++ bs) = (dropBytes? n as).map (· ++ bs) := by
  induction n, as using dropBytes?.induct with
  | case1 cs => rw [dropBytes?, dropBytes?, Option.map_some]
  | case2 n => exact absurd h (by rw [byteSize_nil]; omega)
  | case3 n c cs hle ih =>
    rw [byteSize_cons] at h
    rw [List.cons_append, dropBytes?, dropBytes?, if_pos hle, if_pos hle, ih (by omega)]
  | case4 n c cs hgt =>
    rw [List.cons_append, dropBytes?, dropBytes?, if_neg hgt, if_neg hgt, Option.map_none]

/-- Taking no more bytes than a part has does not look behind the part. -/
theorem takeBytes?_append_of_le {n : Nat} {as : List Char} (bs : List Char) (h : n ≤ byteSize as) :
    takeBytes? n (as ++ bs) = takeBytes? n as := by
  induction n, as using takeBytes?.induct with
  | case1 cs => rw [takeBytes?, takeBytes?]
  | case2 n => exact absurd h (by rw [byteSize_nil]; omega)
  | case3 n c cs hle ih =>
    rw [byteSize_cons] at h
    rw [List.cons_append, takeBytes?, takeBytes?, if_pos hle, if_pos hle, ih (by omega)]
  | case4 n c cs hgt =>
    rw [List.cons_append, takeBytes?, takeBytes?, if_neg hgt, if_neg hgt]

/-- Dropping more bytes than a front has drops the front and goes on behind it. -/
theorem dropBytes?_size_add (as bs : List Char) (n : Nat) :
    dropBytes? (byteSize as + n) (as ++ bs) = dropBytes? n bs := by
  induction as with
  | nil => rw [byteSize_nil, Nat.zero_add, List.nil_append]
  | cons a as ih =>
    have ha := a.utf8Size_pos
    obtain ⟨k, hk⟩ : ∃ k, byteSize (a :: as) + n = k + 1 :=
      Nat.exists_eq_succ_of_ne_zero (by rw [byteSize_cons]; omega)
    have hsub : k + 1 - a.utf8Size = byteSize as + n := by rw [← hk, byteSize_cons]; omega
    rw [hk, List.cons_append, dropBytes?, if_pos (by rw [← hk, byteSize_cons]; omega), hsub, ih]

/-- **A cut inside a part is a cut of the part**, whatever stands around it. Both fail together, if
an end of the span falls inside a character of the part. -/
theorem cut?_append_append (as mid bs : List Char) {a b : Nat} (hb : b ≤ byteSize mid) :
    cut? ⟨byteSize as + a, byteSize as + b⟩ (as ++ mid ++ bs) = cut? ⟨a, b⟩ mid := by
  unfold cut?
  by_cases hab : a ≤ b
  · rw [if_pos (by dsimp only; omega), if_pos (by exact hab)]
    dsimp only
    rw [List.append_assoc, dropBytes?_size_add, dropBytes?_append_of_le bs (by omega),
      show byteSize as + b - (byteSize as + a) = b - a from by omega]
    cases hdrop : dropBytes? a mid with
    | none => rfl
    | some rest =>
      obtain ⟨front, rfl, hfront⟩ := dropBytes?_eq_some_iff.mp hdrop
      rw [byteSize_append] at hb
      exact takeBytes?_append_of_le bs (by omega)
  · rw [if_neg (by dsimp only; omega), if_neg (by exact hab)]

/-- **A slice of a slice**: a text that holds another one at a span holds the slices of the other
one behind the start of the span, and has none where the other one has none. -/
theorem slice?_add_add {span : Span} {s t : String} (h : slice? span s = some t) {a b : Nat}
    (hb : span.start + b ≤ span.stop) :
    slice? ⟨span.start + a, span.start + b⟩ s = slice? ⟨a, b⟩ t := by
  obtain ⟨as, bs, hs, hstart, hstop⟩ := slice?_eq_some_iff.mp h
  unfold slice?
  rw [hs, ← hstart, cut?_append_append as t.toList bs (by omega)]

/-- **Equal texts have equal parts.** Where two texts have the same slice, a part of the one slice
is the part of the other that lies as far from its start. -/
theorem slice?_eq_slice? {here there span : Span} {s s' t : String} (h : slice? here s = some t)
    (h' : slice? there s' = some t) (hstart : here.start ≤ span.start)
    (hspan : span.start ≤ span.stop) (hstop : span.stop ≤ here.stop) :
    slice? ⟨there.start + (span.start - here.start), there.start + (span.stop - here.start)⟩ s'
      = slice? span s := by
  obtain ⟨_, _, -, hfront, hsize⟩ := slice?_eq_some_iff.mp h
  obtain ⟨_, _, -, hfront', hsize'⟩ := slice?_eq_some_iff.mp h'
  obtain ⟨a, ha⟩ := Nat.exists_eq_add_of_le hstart
  obtain ⟨b, hb⟩ := Nat.exists_eq_add_of_le (Nat.le_trans hstart hspan)
  have hparts : span = ⟨here.start + a, here.start + b⟩ := by rw [← ha, ← hb]
  rw [hparts, Nat.add_sub_cancel_left, Nat.add_sub_cancel_left, slice?_add_add h (by omega),
    slice?_add_add h' (by omega)]

/-! ## Character boundaries -/

/-- **An offset at which a text can be cut**: the end of a front of the text. -/
def IsBoundary (s : String) (n : Nat) : Prop :=
  ∃ as bs, s.toList = as ++ bs ∧ byteSize as = n

/-- The cuts decide about boundaries. -/
theorem isBoundary_iff_isSome {s : String} {n : Nat} :
    IsBoundary s n ↔ (takeBytes? n s.toList).isSome = true := by
  rw [Option.isSome_iff_exists]
  constructor
  · rintro ⟨as, bs, h, hsize⟩
    exact ⟨as, takeBytes?_eq_some_iff.mpr ⟨bs, h, hsize⟩⟩
  · rintro ⟨as, h⟩
    obtain ⟨bs, hbs, hsize⟩ := takeBytes?_eq_some_iff.mp h
    exact ⟨as, bs, hbs, hsize⟩

instance (s : String) (n : Nat) : Decidable (IsBoundary s n) :=
  decidable_of_iff _ isBoundary_iff_isSome.symm

theorem isBoundary_utf8ByteSize (s : String) : IsBoundary s s.utf8ByteSize :=
  ⟨s.toList, [], (List.append_nil _).symm, byteSize_toList s⟩

/-- No boundary lies behind the end. -/
theorem IsBoundary.le_utf8ByteSize {s : String} {n : Nat} (h : IsBoundary s n) :
    n ≤ s.utf8ByteSize := by
  obtain ⟨as, bs, hs, rfl⟩ := h
  rw [← byteSize_toList, hs, byteSize_append]
  exact Nat.le_add_right _ _

/-- **A span in order covers a text exactly if both its ends are boundaries.** -/
theorem exists_slice?_iff {span : Span} {s : String} (h : span.start ≤ span.stop) :
    (∃ t, slice? span s = some t) ↔ IsBoundary s span.start ∧ IsBoundary s span.stop := by
  constructor
  · rintro ⟨t, ht⟩
    obtain ⟨as, bs, hs, hstart, hstop⟩ := slice?_eq_some_iff.mp ht
    refine ⟨⟨as, t.toList ++ bs, ?_, hstart⟩, ⟨as ++ t.toList, bs, hs, ?_⟩⟩
    · rw [hs, List.append_assoc]
    · rw [byteSize_append, hstop]
  · rintro ⟨⟨as, as', has, hstart⟩, ⟨bs, bs', hbs, hstop⟩⟩
    -- the shorter front is a front of the longer one, and the text is what it lacks
    obtain ⟨mid, rfl⟩ := isPrefix_of_byteSize_le ⟨as', has.symm⟩ ⟨bs', hbs.symm⟩ (by omega)
    refine ⟨String.ofList mid, slice?_eq_some_iff.mpr ⟨as, bs', ?_, hstart, ?_⟩⟩
    · rw [hbs, String.toList_ofList]
    · rw [String.toList_ofList, ← byteSize_append, hstop]

/-- A span in order has no text exactly if it cuts a character or reaches past the end. -/
theorem slice?_eq_none_iff {span : Span} {s : String} (h : span.start ≤ span.stop) :
    slice? span s = none ↔ ¬(IsBoundary s span.start ∧ IsBoundary s span.stop) := by
  rw [← exists_slice?_iff h, not_exists, Option.eq_none_iff_forall_ne_some]

end TextTemplate.Text
