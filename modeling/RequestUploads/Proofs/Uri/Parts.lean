import RequestUploads.Proofs.Domain
import RequestUploads.Proofs.Text.Percent
import RequestUploads.Proofs.Uri

namespace RequestUploads
open Results

/-! ## Visible texts -/

def Ascii.Visible (s : List Char) : Prop := ∀ c ∈ s, 0x20 < c.toNat ∧ c.toNat < 0x80

instance : DecidablePred Ascii.Visible := fun s =>
  decidable_of_iff ((s.all fun c => 0x20 < c.toNat ∧ c.toNat < 0x80) = true)
    (by simp [Ascii.Visible])

@[simp] theorem Ascii.visible_nil : Visible [] := by simp [Visible]

@[simp] theorem Ascii.visible_cons {c : Char} {s : List Char} :
    Visible (c :: s) ↔ (0x20 < c.toNat ∧ c.toNat < 0x80) ∧ Visible s :=
  List.forall_mem_cons

@[simp] theorem Ascii.visible_append {s t : List Char} :
    Visible (s ++ t) ↔ Visible s ∧ Visible t :=
  List.forall_mem_append

theorem Ascii.visible_toDigits (base n : Nat) : Visible (Nat.toDigits base n) := by
  have digit (d : Nat) : 0x20 < d.digitChar.toNat ∧ d.digitChar.toNat < 0x80 := by
    by_cases small : d < 16
    · have all : ∀ d < 16, 0x20 < d.digitChar.toNat ∧ d.digitChar.toNat < 0x80 := by decide
      exact all d small
    · rw [Nat.digitChar_eq_star.2 (Nat.not_lt.1 small)]
      decide
  have core (fuel m : Nat) (written : List Char) (visible : Visible written) :
      Visible (Nat.toDigitsCore base fuel m written) := by
    induction fuel generalizing m written with
    | zero => exact visible
    | succ fuel ih =>
        rw [Nat.toDigitsCore]
        split_ifs
        · exact visible_cons.2 ⟨digit _, visible⟩
        · exact ih _ _ (visible_cons.2 ⟨digit _, visible⟩)
  exact core (n + 1) n [] visible_nil

namespace Percent

theorem mem_encode {set : Char → Bool} {s : List Char} {c : Char} (member : c ∈ encode set s) :
    (c ∈ s ∧ set c = false ∧ c.toNat < 0x80) ∨ 0x20 < c.toNat ∧ c.toNat < 0x80 := by
  obtain ⟨d, inText, written⟩ := List.mem_flatMap.1 member
  split_ifs at written with escaped
  · rcases mem_of_escapes (escapes_escape _) written with rfl | ⟨n, digit⟩
    · exact .inr (by decide)
    · exact .inr (Ascii.toNat_of_hexValue? digit)
  · rw [List.mem_singleton.1 written]
    simp only [Bool.or_eq_true, decide_eq_true_eq, not_or, Bool.not_eq_true, not_le] at escaped
    exact .inl ⟨inText, escaped⟩

theorem visible_encode {set : Char → Bool} {s : List Char}
    (covers : ∀ c ∈ s, set c = false → 0x20 < c.toNat) : Ascii.Visible (encode set s) := by
  intro c member
  rcases mem_encode member with ⟨inText, kept, small⟩ | visible
  · exact ⟨covers c inText kept, small⟩
  · exact visible

end Percent

namespace Uri
open Ascii

/-! ## Characters that are not escaped -/

theorem visible_of_not_control {c : Char} (kept : isControl c = false) (space : c ≠ ' ') :
    0x20 < c.toNat := by
  simp only [isControl, Bool.or_eq_false_iff, decide_eq_false_iff_not, not_lt] at kept
  refine lt_of_le_of_ne kept.1 fun same => space ?_
  rw [← Char.ofNat_toNat c, ← same]

theorem visible_of_not_inFragment {c : Char} (kept : inFragment c = false) : 0x20 < c.toNat := by
  have parts := Bool.or_eq_false_iff.1 kept
  refine visible_of_not_control parts.1 ?_
  rintro rfl
  cases parts.2

theorem visible_of_not_inPath {c : Char} (kept : inPath c = false) : 0x20 < c.toNat :=
  visible_of_not_inFragment (Bool.or_eq_false_iff.1 kept).1

theorem visible_of_not_inUserinfo {c : Char} (kept : inUserinfo c = false) : 0x20 < c.toNat :=
  visible_of_not_inPath (Bool.or_eq_false_iff.1 kept).1

theorem visible_of_not_inQuery {special : Bool} {c : Char} (kept : inQuery special c = false) :
    0x20 < c.toNat := by
  have parts := Bool.or_eq_false_iff.1 (Bool.or_eq_false_iff.1 kept).1
  refine visible_of_not_control parts.1 ?_
  rintro rfl
  cases parts.2

/-! ## Authorities -/

theorem visible_ipv6Text (pieces : List Nat) : Visible (Host.ipv6Text pieces) := by
  have group (part : List Nat) : Visible (Text.join ':' (part.map Ascii.hexDigits)) :=
    Text.forall_mem_join (by decide) (List.forall_mem_map.2 fun n _ => visible_toDigits 16 n)
  unfold Host.ipv6Text
  dsimp only
  split_ifs
  · exact group pieces
  · simp only [visible_append, visible_cons, visible_nil]
    exact ⟨⟨group _, by decide⟩, group _⟩

theorem visible_ipv4Text (address : Nat) : Visible (Host.ipv4Text address) :=
  Text.forall_mem_join (by decide) (List.forall_mem_map.2 fun n _ => visible_toDigits 10 n)

theorem visible_bracketed {s : List Char} {host : Host} (reads : bracketed s = .ok host) :
    Visible host.text := by
  unfold bracketed at reads
  split_ifs at reads
  split at reads
  · rw [← Except.ok.inj reads, Host.text]
    simp only [List.cons_append, visible_cons, visible_append, visible_nil]
    exact ⟨by decide, visible_ipv6Text _, by decide⟩
  · cases reads

theorem visible_domainHost {s : List Char} {host : Host} (reads : domainHost s = .ok host) :
    Visible host.text := by
  unfold domainHost at reads
  split_ifs at reads
  · exact visible_bracketed reads
  · split at reads
    · cases reads
    · cases reads
    · rename_i domain _ spelled
      split_ifs at reads
      · split at reads
        · rw [← Except.ok.inj reads]
          exact visible_ipv4Text _
        · cases reads
      · rw [← Except.ok.inj reads, Host.text, String.toList_ofList]
        exact fun c => Domain.visible_of_toAscii? spelled

theorem visible_plainHost {s : List Char} {host : Host} (reads : plainHost s = .ok host) :
    Visible host.text := by
  unfold plainHost at reads
  split_ifs at reads with brackets forbidden
  · exact visible_bracketed reads
  · rw [← Except.ok.inj reads, Host.text, String.toList_ofList]
    refine Percent.visible_encode fun c member kept => visible_of_not_control kept ?_
    rintro rfl
    exact forbidden (List.any_eq_true.2 ⟨' ', member, by decide⟩)

theorem visible_userinfo (s : List Char) :
    Visible (userinfo s).1 ∧ Visible (userinfo s).2 :=
  ⟨Percent.visible_encode fun _ _ => visible_of_not_inUserinfo,
    Percent.visible_encode fun _ _ => visible_of_not_inUserinfo⟩

theorem visible_authority_text {authority : Authority} (user : Visible authority.user.toList)
    (password : Visible authority.password.toList) (host : Visible authority.host.text) :
    Visible authority.text := by
  refine visible_append.2 ⟨visible_append.2 ⟨?info, host⟩, ?port⟩
  case info => split_ifs <;> simp [user, password]
  case port =>
    split
    · exact visible_cons.2 ⟨by decide, visible_toDigits 10 _⟩
    · exact visible_nil

theorem visible_readAuthority {kind : SchemeKind} {scheme s rest : List Char} {final : Bool}
    {authority : Authority} (reads : readAuthority kind scheme final s = .ok (authority, rest)) :
    Visible authority.text := by
  unfold readAuthority at reads
  dsimp only at reads
  generalize (Option.map _ (splitUserinfo? s)).getD (none, s) = parts at reads
  replace reads := of_guard (of_guard reads)
  obtain ⟨host, made, reads⟩ := of_choice reads
  replace reads := of_guard reads
  obtain ⟨port, -, reads⟩ := of_choice reads
  replace reads := of_guard reads
  obtain ⟨rfl, -⟩ := Prod.mk.inj (Except.ok.inj reads)
  have visible : Visible host.text := made.elim visible_plainHost visible_domainHost
  obtain ⟨user, password⟩ := visible_userinfo (parts.1.getD [])
  exact visible_authority_text (by simpa using user) (by simpa using password) visible

/-! ## Paths -/

theorem Walk.visible_up {walk : Walk} (visible : ∀ segment ∈ walk.done, Visible segment) :
    ∀ segment ∈ walk.up.done, Visible segment := by
  unfold Walk.up
  split
  · exact visible
  · rename_i last before done
    split_ifs
    · exact visible
    · intro segment member
      exact visible segment (by simp [done, member])

theorem Walk.visible_down {walk : Walk} (visible : ∀ segment ∈ walk.done, Visible segment)
    (kind : SchemeKind) {segment : List Char} (here : Visible segment) :
    ∀ other ∈ (walk.down kind segment).done, Visible other := by
  have drive {c : Char} {s : List Char} (begins : Visible (c :: s)) : Visible [c, ':'] :=
    visible_cons.2 ⟨(visible_cons.1 begins).1, by simp⟩
  unfold Walk.down
  split_ifs
  · split
    · split_ifs
      · simpa using drive here
      · simpa using here
    · split_ifs
      · have rest := (visible_cons.1 (visible_cons.1 here).2).2
        simpa [rest] using drive here
      · simpa using here
    · simpa using here
  · exact List.forall_mem_cons.2 ⟨here, visible⟩

theorem Walk.visible_through (kind : SchemeKind) {walk : Walk} {parts : List (List Char)}
    (visible : ∀ segment ∈ walk.done, Visible segment) (parted : ∀ part ∈ parts, Visible part) :
    ∀ segment ∈ (Walk.through kind walk parts).done, Visible segment := by
  fun_induction Walk.through kind walk parts with
  | case1 walk => exact visible
  | case2 walk last => exact List.forall_mem_cons.2 ⟨visible_nil, visible_up visible⟩
  | case3 walk last => exact List.forall_mem_cons.2 ⟨visible_nil, visible⟩
  | case4 walk last => exact visible_down visible kind (parted last (by simp))
  | case5 walk segment rest _ _ ih =>
      exact ih (visible_up visible) fun part member => parted part (by simp [member])
  | case6 walk segment rest _ _ _ ih =>
      exact ih visible fun part member => parted part (by simp [member])
  | case7 walk segment rest _ _ _ ih =>
      exact ih (visible_down visible kind (parted segment (by simp)))
        fun part member => parted part (by simp [member])

theorem visible_segments (kind : SchemeKind) (s : List Char) :
    ∀ segment ∈ (segments kind s).1, Visible segment := by
  have walked : ∀ segment ∈ (Walk.through kind ⟨[], false⟩
      ((rawSegments kind s).map (Percent.encode inPath))).done, Visible segment :=
    Walk.visible_through kind (by simp) (List.forall_mem_map.2 fun part _ =>
      Percent.visible_encode fun _ _ => visible_of_not_inPath)
  unfold segments
  dsimp only
  split_ifs
  · split
    · simp
    · exact fun segment member =>
        walked segment (List.mem_reverse.1 ((List.dropWhile_sublist _).subset member))
  · exact fun segment member => walked segment (List.mem_reverse.1 member)

/-- How a path is written after a scheme and the text `s`: in visible segments, or as that text with
only its control characters escaped. -/
inductive WrittenPath (s : List Char) : UriPath → Prop
  | segments {names : List String} :
      (∀ name ∈ names, Visible name.toList) → WrittenPath s (.segments names)
  | rootless : WrittenPath s (.rootless (String.ofList (Percent.encode isControl s)))

theorem WrittenPath.of_segments (s : List Char) (kind : SchemeKind) (path : List Char) :
    WrittenPath s (.segments ((Uri.segments kind path).1.map String.ofList)) :=
  .segments (List.forall_mem_map.2 fun segment member => by
    rw [String.toList_ofList]
    exact visible_segments kind path segment member)

/-! ## Hierarchies -/

def WrittenHierarchy (s : List Char) (found : Hierarchy) : Prop :=
  (∀ authority, found.1 = some authority → Visible authority.text) ∧ WrittenPath s found.2

theorem written_specialHierarchy {scheme s : List Char} {final : Bool} {found : Hierarchy}
    (reads : specialHierarchy scheme final s = .ok found) : WrittenHierarchy s found := by
  unfold specialHierarchy at reads
  dsimp only at reads
  obtain ⟨⟨authority, rest⟩, readsAuthority, reads⟩ := bind_eq_ok_iff.1 reads
  obtain rfl := Except.ok.inj reads
  refine ⟨?_, .of_segments s _ _⟩
  rintro other same
  obtain rfl := Option.some.inj same
  exact visible_readAuthority readsAuthority

theorem written_plainHierarchy {scheme s : List Char} {final : Bool} {found : Hierarchy}
    (reads : plainHierarchy scheme final s = .ok found) : WrittenHierarchy s found := by
  unfold plainHierarchy at reads
  split at reads
  · rename_i s
    dsimp only at reads
    obtain ⟨⟨authority, rest⟩, readsAuthority, reads⟩ := bind_eq_ok_iff.1 reads
    obtain rfl := Except.ok.inj reads
    constructor
    · rintro other same
      obtain rfl := Option.some.inj same
      exact visible_readAuthority readsAuthority
    · dsimp only
      split
      · exact .segments (by simp)
      · exact .of_segments _ _ _
      · exact .of_segments _ _ _
  · obtain rfl := Except.ok.inj reads
    exact ⟨nofun, .of_segments _ _ _⟩
  · obtain rfl := Except.ok.inj reads
    exact ⟨nofun, .rootless⟩

theorem visible_fileHost {s : List Char} {host : Host} (reads : fileHost s = .ok host) :
    Visible host.text := by
  unfold fileHost at reads
  split_ifs at reads
  · rw [← Except.ok.inj reads]
    exact visible_nil
  · obtain ⟨found, readsDomain, reads⟩ := bind_eq_ok_iff.1 reads
    rw [← Except.ok.inj reads]
    split_ifs
    · exact visible_nil
    · exact visible_domainHost readsDomain

theorem written_fileHierarchy {s : List Char} {found : Hierarchy}
    (reads : fileHierarchy s = .ok found) : WrittenHierarchy s found := by
  have hosted {host : Host} (visible : Visible host.text) (path : List Char) :
      WrittenHierarchy s (some ⟨"", "", if (segments .file path).2 then .name "" else host, none⟩,
        .segments ((segments .file path).1.map String.ofList)) := by
    refine ⟨?_, .of_segments s _ _⟩
    rintro other same
    obtain rfl := Option.some.inj same
    refine visible_authority_text visible_nil visible_nil ?_
    dsimp only
    split_ifs
    · exact visible_nil
    · exact visible
  have noHost : Visible (Host.name "").text := visible_nil
  unfold fileHierarchy at reads
  dsimp only at reads
  split at reads
  · split at reads
    · split at reads
      · obtain rfl := Except.ok.inj reads
        exact hosted noHost _
      · obtain ⟨host, readsHost, reads⟩ := bind_eq_ok_iff.1 reads
        obtain rfl := Except.ok.inj reads
        exact hosted (visible_fileHost readsHost) _
    · split at reads
      · obtain rfl := Except.ok.inj reads
        exact hosted noHost _
      · obtain rfl := Except.ok.inj reads
        exact hosted noHost _
  · obtain rfl := Except.ok.inj reads
    exact hosted noHost _
  · obtain rfl := Except.ok.inj reads
    exact hosted noHost _

theorem written_hierarchy {scheme s : List Char} {final : Bool} {found : Hierarchy}
    (reads : hierarchy scheme final s = .ok found) : WrittenHierarchy s found := by
  unfold hierarchy at reads
  split at reads
  · exact written_plainHierarchy reads
  · exact written_specialHierarchy reads
  · exact written_fileHierarchy reads

end Uri

end RequestUploads
