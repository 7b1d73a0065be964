import RequestUploads.Domain.Name
import RequestUploads.Proofs.Text

namespace RequestUploads.Domain

theorem isAscii_iff {s : List Char} : isAscii s = true ↔ ∀ c ∈ s, c.toNat < 0x80 := by
  simp [isAscii]

/-! ## Punycode -/

namespace Punycode

theorem ascii_digitChar (n : Nat) : (digitChar n).toNat < 0x80 := by
  by_cases small : n < 36
  · have all : ∀ n < 36, (digitChar n).toNat < 0x80 := by decide
    exact all n small
  · have none : "abcdefghijklmnopqrstuvwxyz0123456789".toList[n]? = .none :=
      List.getElem?_eq_none (Nat.not_lt.1 small)
    rw [digitChar, List.getD_eq_getElem?_getD, none]
    decide

theorem ascii_digits (bias k q : Nat) : ∀ c ∈ digits bias k q, c.toNat < 0x80 := by
  fun_induction digits bias k q with
  | case1 k q t last =>
      intro c member
      rw [List.mem_singleton.1 member]
      exact ascii_digitChar _
  | case2 k q t more ih =>
      intro c member
      rcases List.mem_cons.1 member with rfl | later
      · exact ascii_digitChar _
      · exact ih c later

theorem ascii_pass {w : Writer} (ascii : ∀ c ∈ w.out, c.toNat < 0x80) (n : Nat) (c : Char) :
    ∀ d ∈ (w.pass n c).out, d.toNat < 0x80 := by
  unfold Writer.pass
  split_ifs
  · exact ascii
  · intro d member
    rcases List.mem_append.1 member with new | old
    · exact ascii_digits _ _ _ d (List.mem_reverse.1 new)
    · exact ascii d old
  · exact ascii

theorem ascii_foldl_pass {w : Writer} (ascii : ∀ c ∈ w.out, c.toNat < 0x80) (n : Nat)
    (s : List Char) : ∀ d ∈ (s.foldl (Writer.pass n) w).out, d.toNat < 0x80 := by
  induction s generalizing w with
  | nil => exact ascii
  | cons c s ih => exact ih (ascii_pass ascii n c)

theorem ascii_place {w : Writer} (ascii : ∀ c ∈ w.out, c.toNat < 0x80) (s : List Char) (n : Nat)
    (points : List Nat) : ∀ d ∈ (Writer.place s w n points).out, d.toNat < 0x80 := by
  induction points generalizing w n with
  | nil => exact ascii
  | cons point points ih =>
      rw [Writer.place]
      refine ih ?_ (point + 1)
      refine ascii_foldl_pass ?_ point s
      exact ascii

theorem ascii_encode (s : List Char) : ∀ c ∈ encode s, c.toNat < 0x80 := by
  intro c member
  simp only [encode, List.mem_append, List.mem_filter, List.mem_reverse] at member
  rcases member with (⟨-, small⟩ | hyphen) | written
  · exact of_decide_eq_true small
  · split_ifs at hyphen
    · cases hyphen
    · rw [List.mem_singleton.1 hyphen]
      decide
  · exact ascii_place (by simp) s _ _ c written

end Punycode

/-! ## Names -/

theorem Label.ascii_spelling {s : List Char} {label : Label} (found : ofMapped? s = some label) :
    isAscii label.spelling = true := by
  unfold ofMapped? at found
  split_ifs at found with marked notAscii ascii
  · cases found
  · simp only [Option.bind_eq_bind, Option.bind_eq_some_iff] at found
    obtain ⟨reading, -, found⟩ := found
    split_ifs at found
    rw [← Option.some.inj found]
    simpa using notAscii
  · rw [← Option.some.inj found]
    exact ascii
  · rw [← Option.some.inj found, isAscii_iff]
    intro c member
    rcases List.mem_append.1 member with inMarker | inLabel
    · exact isAscii_iff.1 (by decide : isAscii marker = true) c inMarker
    · exact Punycode.ascii_encode s c inLabel

theorem exists_of_mem_mapM {α β : Type} {read : α → Option β} {items : List α} {values : List β}
    (all : items.mapM read = some values) {value : β} (member : value ∈ values) :
    ∃ item ∈ items, read item = some value := by
  induction items generalizing values with
  | nil =>
      obtain rfl := Option.some.inj all
      cases member
  | cons item items ih =>
      simp only [List.mapM_cons, Option.bind_eq_bind, Option.pure_def,
        Option.bind_eq_some_iff] at all
      obtain ⟨first, here, others, rest, same⟩ := all
      obtain rfl := Option.some.inj same
      rcases List.mem_cons.1 member with rfl | later
      · exact ⟨item, List.mem_cons_self, here⟩
      · obtain ⟨found, inItems, there⟩ := ih rest later
        exact ⟨found, List.mem_cons_of_mem _ inItems, there⟩

theorem ascii_spellLabels? {name spelling : List Char}
    (found : spellLabels? name = some spelling) : isAscii spelling = true := by
  simp only [spellLabels?, Option.bind_eq_bind, Option.bind_eq_some_iff] at found
  obtain ⟨mapped, -, labels, made, found⟩ := found
  split_ifs at found
  rw [← Option.some.inj found]
  refine isAscii_iff.2 (Text.forall_mem_join (by decide) (List.forall_mem_map.2 ?_))
  intro label member
  obtain ⟨piece, -, ofPiece⟩ := exists_of_mem_mapM made member
  exact isAscii_iff.1 (Label.ascii_spelling ofPiece)

theorem ascii_of_toAscii? {name spelling : List Char} (found : toAscii? name = some spelling) :
    isAscii spelling = true ∧ spelling.any isForbidden = false := by
  have checked {written : List Char} (ascii : isAscii written = true)
      (allowed : (if written.any isForbidden then none else some written) = some spelling) :
      isAscii spelling = true ∧ spelling.any isForbidden = false := by
    split_ifs at allowed with forbidden
    rw [← Option.some.inj allowed]
    exact ⟨ascii, Bool.eq_false_iff.2 forbidden⟩
  simp only [toAscii?, Option.bind_eq_bind] at found
  split_ifs at found with plain
  · exact checked (Bool.and_eq_true_iff.1 plain).1 found
  · obtain ⟨written, spelled, allowed⟩ := Option.bind_eq_some_iff.1 found
    exact checked (ascii_spellLabels? spelled) allowed

theorem visible_of_toAscii? {name spelling : List Char} (found : toAscii? name = some spelling)
    {c : Char} (member : c ∈ spelling) : 0x20 < c.toNat ∧ c.toNat < 0x80 := by
  obtain ⟨ascii, allowed⟩ := ascii_of_toAscii? found
  have notForbidden := List.any_eq_false.1 allowed c member
  simp only [isForbidden, Bool.or_eq_true, decide_eq_true_eq, not_or, not_le] at notForbidden
  exact ⟨notForbidden.1.1, isAscii_iff.1 ascii c member⟩

end RequestUploads.Domain
