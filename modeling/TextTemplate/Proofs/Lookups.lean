import TextTemplate.Proofs.Pieces

/-!
# What the lookups of a source map find

The mapping around a range of the text is found by halving the list of mappings. If the mappings are
in the order in which they start, the halving ends between those that start no later than the range
and the others (`partitionPoint_append`), so the mapping that is looked at is the last of the former
(`containing?_eq_some_iff`).

A place that is found is then carried over to the other side. `Mapping.carry` and
`Mapping.carryBack` say where to, without regard to the size of a word; the lookups give just that
place, or fail if its end is too large for a word.
-/

namespace TextTemplate.Mapping

/-! ## Halving -/

/-- **Halving ends where the property stops to hold**, if it holds of a front of the list and of
nothing behind. -/
theorem partitionFrom_append {p : Mapping → Bool} {ms : Array Mapping} {front back : List Mapping}
    (hms : ms.toList = front ++ back) (hfront : ∀ m ∈ front, p m = true)
    (hback : ∀ m ∈ back, p m = false) (lo hi : Nat) (h : hi ≤ ms.size)
    (hlo : lo ≤ front.length) (hhi : front.length ≤ hi) :
    partitionFrom p ms lo hi h = front.length := by
  induction lo, hi, h using partitionFrom.induct p ms with
  | case1 lo hi h hlt mid hmid hp ih =>
    rw [partitionFrom, dif_pos hlt, if_pos hp]
    refine ih (Nat.lt_of_not_le fun hgt => ?_) hhi
    -- a mapping with the property is not behind the front
    have hmem : ms[mid] ∈ back := by
      rw [← Array.getElem_toList, List.getElem_of_eq hms, List.getElem_append_right (by omega)]
      exact List.getElem_mem _
    rw [hback _ hmem] at hp
    cases hp
  | case2 lo hi h hlt mid hmid hp ih =>
    rw [partitionFrom, dif_pos hlt, if_neg hp]
    refine ih hlo (Nat.le_of_not_lt fun hgt => ?_)
    have hmem : ms[mid] ∈ front := by
      rw [← Array.getElem_toList, List.getElem_of_eq hms, List.getElem_append_left (by omega)]
      exact List.getElem_mem _
    exact hp (hfront _ hmem)
  | case3 lo hi h hlt =>
    rw [partitionFrom, dif_neg hlt]
    omega

/-- The whole list is halved. -/
theorem partitionPoint_append {p : Mapping → Bool} {ms : Array Mapping} {front back : List Mapping}
    (hms : ms.toList = front ++ back) (hfront : ∀ m ∈ front, p m = true)
    (hback : ∀ m ∈ back, p m = false) : partitionPoint p ms = front.length := by
  refine partitionFrom_append hms hfront hback 0 ms.size (Nat.le_refl _) (Nat.zero_le _) ?_
  rw [← Array.length_toList, hms, List.length_append]
  omega

/-! ## The mapping around a range -/

/-- The mappings are in the order in which they start. -/
def Ordered (ms : List Mapping) : Prop := ms.Pairwise fun a b => a.generated.start ≤ b.generated.start

/-- Whether a mapping stands over all of a range. -/
def covers (place : Span) (m : Mapping) : Bool :=
  m.generated.start ≤ place.start && place.stop ≤ m.generated.stop

/-- An ordered list is cut by an offset into what starts no later and what starts later. -/
theorem Ordered.exists_split {ms : List Mapping} (h : Ordered ms) (offset : Nat) :
    ∃ front back, ms = front ++ back ∧ (∀ m ∈ front, m.generated.start ≤ offset)
      ∧ ∀ m ∈ back, offset < m.generated.start := by
  induction ms with
  | nil => exact ⟨[], [], rfl, List.forall_mem_nil _, List.forall_mem_nil _⟩
  | cons a ms ih =>
    obtain ⟨hle, hms⟩ := List.pairwise_cons.mp h
    by_cases ha : a.generated.start ≤ offset
    · obtain ⟨front, back, rfl, hfront, hback⟩ := ih hms
      refine ⟨a :: front, back, rfl, ?_, hback⟩
      intro m hm
      rcases List.mem_cons.mp hm with rfl | hm
      · exact ha
      · exact hfront m hm
    · refine ⟨[], a :: ms, rfl, List.forall_mem_nil _, ?_⟩
      intro m hm
      rcases List.mem_cons.mp hm with rfl | hm
      · omega
      · have := hle m hm
        omega

/-- **The mapping that is found** starts no later than the range and ends no earlier, and all the
mappings behind it start later than the range. -/
theorem containing?_eq_some_iff {ms : Array Mapping} (hms : Ordered ms.toList) {span : Span}
    {m : Mapping} :
    containing? ms span = some m ↔
      ∃ front back, ms.toList = front ++ m :: back ∧ m.generated.start ≤ span.start
        ∧ span.stop ≤ m.generated.stop ∧ ∀ b ∈ back, span.start < b.generated.start := by
  constructor
  · intro h
    obtain ⟨front, back, hsplit, hfront, hback⟩ := hms.exists_split span.start
    have hpoint : partitionPoint (fun m => decide (m.generated.start ≤ span.start)) ms
        = front.length :=
      partitionPoint_append hsplit (fun m hm => decide_eq_true (hfront m hm))
        (fun m hm => decide_eq_false (Nat.not_le.mpr (hback m hm)))
    unfold containing? at h
    rw [hpoint] at h
    rcases List.eq_nil_or_concat front with rfl | ⟨init, last, rfl⟩
    · cases h
    · rw [List.concat_eq_append] at hsplit hfront hpoint h
      rw [List.length_append, List.length_singleton] at h
      simp only [← Array.getElem?_toList, hsplit, List.append_assoc, List.singleton_append,
        List.getElem?_append_right (Nat.le_refl _), Nat.sub_self, List.getElem?_cons_zero,
        Option.filter_some] at h
      split at h
      · rename_i hstop
        rw [Option.some.injEq] at h
        rw [decide_eq_true_eq] at hstop
        subst h
        refine ⟨init, back, ?_, hfront _ ?_, hstop, hback⟩
        · rw [hsplit, List.append_assoc, List.singleton_append]
        · exact List.mem_append_right init (List.mem_singleton_self _)
      · cases h
  · rintro ⟨front, back, hsplit, hstart, hstop, hback⟩
    have hfront : ∀ a ∈ front ++ [m], a.generated.start ≤ span.start := by
      intro a ha
      rcases List.mem_append.mp ha with ha | ha
      · rw [hsplit] at hms
        exact Nat.le_trans ((List.pairwise_append.mp hms).2.2 a ha m List.mem_cons_self) hstart
      · rw [List.mem_singleton.mp ha]
        exact hstart
    have hsplit' : ms.toList = (front ++ [m]) ++ back := by
      rw [hsplit, List.append_assoc, List.singleton_append]
    have hpoint : partitionPoint (fun m => decide (m.generated.start ≤ span.start)) ms
        = front.length + 1 := by
      rw [partitionPoint_append hsplit' (fun a ha => decide_eq_true (hfront a ha))
        (fun b hb => decide_eq_false (Nat.not_le.mpr (hback b hb))), List.length_append,
        List.length_singleton]
    unfold containing?
    rw [hpoint]
    simp only [← Array.getElem?_toList, hsplit, List.getElem?_append_right (Nat.le_refl _),
      Nat.sub_self, List.getElem?_cons_zero, Option.filter_some, decide_eq_true_eq]
    exact if_pos hstop

/-! ## Carrying a place over -/

/-- **Where a range inside the text of a mapping comes from**: as far behind the origin as the range
is behind the start of the text. -/
def carry (m : Mapping) (span : Span) : Origin where
  fileId := m.origin.fileId
  span := ⟨m.origin.span.start + (span.start - m.generated.start),
    m.origin.span.start + (span.stop - m.generated.start)⟩

/-- Where a range inside the origin of a mapping stands in the text. -/
def carryBack (m : Mapping) (span : Span) : Span where
  start := m.generated.start + (span.start - m.origin.span.start)
  stop := m.generated.start + (span.stop - m.origin.span.start)

/-- **The computation by which a lookup finds a place** gives both of its ends, if the second one fits
a word: neither difference falls below zero. -/
theorem rebase_eq {span : Span} {origin : Nat} (h : span.start ≤ span.stop)
    (horigin : origin ≤ span.start) (base : Nat) :
    span.rebase origin base
      = if base + (span.stop - origin) < UInt64.size then
          .ok ⟨base + (span.start - origin), base + (span.stop - origin)⟩
        else .error .sum := by
  obtain ⟨start, stop⟩ := span
  dsimp only at h horigin ⊢
  have hsum : base + (start - origin) + (stop - start) = base + (stop - origin) := by omega
  have hends : Span.rebase ⟨start, stop⟩ origin base = addOffsets base (start - origin) >>= fun a =>
      addOffsets a (stop - start) >>= fun b => pure ⟨a, b⟩ := by
    unfold Span.rebase
    rw [subtractOffsets_of_le horigin, subtractOffsets_of_le h]
    rfl
  rw [hends]
  by_cases hstop : base + (stop - origin) < UInt64.size
  · rw [if_pos hstop, addOffsets_of_lt (by omega)]
    show (addOffsets (base + (start - origin)) (stop - start) >>= fun b => pure _) = _
    rw [addOffsets_of_lt (by omega), hsum]
    rfl
  · rw [if_neg hstop]
    by_cases hstart : base + (start - origin) < UInt64.size
    · rw [addOffsets_of_lt hstart]
      show (addOffsets (base + (start - origin)) (stop - start) >>= fun b => pure _) = _
      rw [addOffsets_of_le (by omega)]
      rfl
    · rw [addOffsets_of_le (by omega)]
      rfl

/-- What is made of the place. -/
theorem rebase_bind {α : Type} {span : Span} {origin : Nat} (h : span.start ≤ span.stop)
    (horigin : origin ≤ span.start) (base : Nat) (f : Span → α) :
    (span.rebase origin base >>= fun place => pure (f place))
      = if base + (span.stop - origin) < UInt64.size then
          .ok (f ⟨base + (span.start - origin), base + (span.stop - origin)⟩)
        else .error .sum := by
  rw [rebase_eq h horigin]
  split <;> rfl

/-- **The origin of a range is found by carrying it through the mapping around it.** -/
theorem toOrigin?_of_containing {ms : Array Mapping} {span : Span} {m : Mapping}
    (h : span.start ≤ span.stop) (hm : containing? ms span = some m)
    (hstart : m.generated.start ≤ span.start) :
    toOrigin? ms span
      = if (m.carry span).span.stop < UInt64.size then .ok (some (m.carry span))
        else .error .sum := by
  unfold toOrigin?
  rw [if_neg (Nat.not_lt.mpr h), hm]
  exact rebase_bind h hstart _ fun place => some (⟨m.origin.fileId, place⟩ : Origin)

/-- A range without a mapping around it has no origin. -/
theorem toOrigin?_of_containing_none {ms : Array Mapping} {span : Span}
    (hm : containing? ms span = none) : toOrigin? ms span = .ok none := by
  unfold toOrigin?
  rw [hm]
  split <;> rfl

/-- **An origin that is found** is that of a mapping around the range. -/
theorem exists_of_toOrigin?_eq {ms : Array Mapping} (hms : Ordered ms.toList) {span : Span}
    {origin : Origin} (h : toOrigin? ms span = .ok (some origin)) :
    span.start ≤ span.stop ∧ ∃ m ∈ ms.toList, m.generated.start ≤ span.start
      ∧ span.stop ≤ m.generated.stop ∧ origin = m.carry span := by
  have hle : span.start ≤ span.stop := by
    refine Nat.le_of_not_lt fun hgt => ?_
    unfold toOrigin? at h
    rw [if_pos hgt] at h
    cases h
  refine ⟨hle, ?_⟩
  cases hm : containing? ms span with
  | none =>
    rw [toOrigin?_of_containing_none hm] at h
    cases h
  | some m =>
    obtain ⟨front, back, hsplit, hstart, hstop, -⟩ := (containing?_eq_some_iff hms).mp hm
    rw [toOrigin?_of_containing hle hm hstart] at h
    split at h
    · rw [Except.ok.injEq, Option.some.injEq] at h
      refine ⟨m, ?_, hstart, hstop, h.symm⟩
      rw [hsplit]
      exact List.mem_append_right front List.mem_cons_self
    · cases h

/-- Whether a mapping comes from around a place. -/
def comesFrom (fileId : Nat) (span : Span) (m : Mapping) : Bool :=
  m.origin.fileId == fileId && m.origin.span.start ≤ span.start && span.stop ≤ m.origin.span.stop

theorem comesFrom_eq_true_iff {fileId : Nat} {span : Span} {m : Mapping} :
    m.comesFrom fileId span = true ↔ m.origin.fileId = fileId
      ∧ m.origin.span.start ≤ span.start ∧ span.stop ≤ m.origin.span.stop := by
  unfold comesFrom
  simp only [Bool.and_eq_true, beq_iff_eq, decide_eq_true_eq, and_assoc]

/-- **Where a place stands is found by carrying it back** through the first mapping that comes from
around it. -/
theorem toGenerated?_of_find {ms : Array Mapping} {fileId : Nat} {span : Span} {m : Mapping}
    (h : span.start ≤ span.stop) (hm : ms.find? (comesFrom fileId span) = some m) :
    toGenerated? ms fileId span
      = if (m.carryBack span).stop < UInt64.size then .ok (some (m.carryBack span))
        else .error .sum := by
  obtain ⟨-, hstart, -⟩ := comesFrom_eq_true_iff.mp (Array.find?_some hm)
  unfold comesFrom at hm
  unfold toGenerated?
  rw [if_neg (Nat.not_lt.mpr h), hm]
  exact rebase_bind h hstart _ some

/-- A place without such a mapping stands nowhere. -/
theorem toGenerated?_of_find_none {ms : Array Mapping} {fileId : Nat} {span : Span}
    (hm : ms.find? (comesFrom fileId span) = none) : toGenerated? ms fileId span = .ok none := by
  unfold comesFrom at hm
  unfold toGenerated?
  rw [hm]
  split <;> rfl

/-- **A place of the text that is found** is that of a mapping whose origin holds the range. -/
theorem exists_of_toGenerated?_eq {ms : Array Mapping} {fileId : Nat} {span generated : Span}
    (h : toGenerated? ms fileId span = .ok (some generated)) :
    span.start ≤ span.stop ∧ ∃ m ∈ ms.toList, m.origin.fileId = fileId
      ∧ m.origin.span.start ≤ span.start ∧ span.stop ≤ m.origin.span.stop
      ∧ generated = m.carryBack span := by
  have hle : span.start ≤ span.stop := by
    refine Nat.le_of_not_lt fun hgt => ?_
    unfold toGenerated? at h
    rw [if_pos hgt] at h
    cases h
  refine ⟨hle, ?_⟩
  cases hm : ms.find? (comesFrom fileId span) with
  | none =>
    rw [toGenerated?_of_find_none hm] at h
    cases h
  | some m =>
    obtain ⟨hfile, hstart, hstop⟩ := comesFrom_eq_true_iff.mp (Array.find?_some hm)
    rw [toGenerated?_of_find hle hm] at h
    split at h
    · rw [Except.ok.injEq, Option.some.injEq] at h
      exact ⟨m, (Array.mem_of_find?_eq_some hm).val, hfile, hstart, hstop, h.symm⟩
    · cases h

/-! ## The mappings of pieces are in order -/

/-- **The mappings of a list of pieces do not overlap**: each one ends before the next one starts.
-/
theorem pairwise_mappingsFrom (offset : Nat) (ps : List Piece) :
    (Piece.mappingsFrom offset ps).Pairwise fun a b => a.generated.stop ≤ b.generated.start := by
  induction ps generalizing offset with
  | nil => exact List.Pairwise.nil
  | cons p ps ih =>
    rw [Piece.mappingsFrom, List.pairwise_append]
    refine ⟨?_, ih _, ?_⟩
    · cases p.mapping? offset with
      | none => exact List.Pairwise.nil
      | some m => exact List.pairwise_singleton _ m
    · intro a ha b hb
      obtain ⟨-, hgenerated⟩ := Piece.mapping?_eq_some_iff.mp (Option.mem_toList.mp ha)
      obtain ⟨hstart, -⟩ := Piece.bounds_of_mem_mappingsFrom hb
      rw [hgenerated]
      exact hstart

/-- So they are in order. -/
theorem ordered_mappingsFrom (offset : Nat) (ps : List Piece) :
    Ordered (Piece.mappingsFrom offset ps) := by
  refine (pairwise_mappingsFrom offset ps).imp_of_mem ?_
  intro a b ha _ hab
  exact Nat.le_trans (Piece.bounds_of_mem_mappingsFrom ha).2.1 hab

end TextTemplate.Mapping
