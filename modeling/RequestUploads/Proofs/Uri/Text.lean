import Mathlib
import RequestUploads.Proofs.Uri.Parts

/-!
# The text of a URI that is read

Whatever text is read as a URI, the text of the URI is one line of ASCII without blanks at its ends
(`Uri.isLine_text`), and before its first colon stands a scheme in small letters
(`Uri.isScheme_of_parse`).  Spaces are only found in a path of no structure, and never at the end:
if neither query nor fragment follows, the path ends where the text that was read ends, which was
trimmed.
-/

namespace RequestUploads
open Results

/-! ## Lines -/

structure Ascii.IsLine (s : List Char) : Prop where
  printable : ∀ c ∈ s, 0x20 ≤ c.toNat ∧ c.toNat < 0x80
  ends : ∀ c ∈ s.getLast?, 0x20 < c.toNat

theorem Ascii.Visible.isLine {s : List Char} (visible : Visible s) : IsLine s where
  printable c member := ⟨(visible c member).1.le, (visible c member).2⟩
  ends c last := (visible c (List.mem_of_getLast? last)).1

theorem Ascii.IsLine.append {s t : List Char} (first : IsLine s) (second : IsLine t) :
    IsLine (s ++ t) where
  printable := List.forall_mem_append.2 ⟨first.printable, second.printable⟩
  ends c last := by
    rw [List.getLast?_append, Option.mem_def, Option.or_eq_some_iff] at last
    rcases last with last | ⟨-, last⟩
    · exact second.ends c last
    · exact first.ends c last

/-- A text that ends in a space is part of a line if something visible follows. -/
theorem Ascii.IsLine.of_followed {s t : List Char}
    (printable : ∀ c ∈ s, 0x20 ≤ c.toNat ∧ c.toNat < 0x80) (visible : Visible t)
    (nonempty : t ≠ []) : IsLine (s ++ t) where
  printable := List.forall_mem_append.2 ⟨printable, visible.isLine.printable⟩
  ends c last := by
    rw [List.getLast?_append_of_ne_nil s nonempty] at last
    exact visible.isLine.ends c last

theorem Ascii.IsLine.oneLine {s : List Char} (line : IsLine s) : '\n' ∉ s := fun member =>
  absurd (line.printable '\n' member).1 (by decide)

theorem Blank.trim_of_ends {s : List Char} (begins : ∀ c ∈ s.head?, isBlank c = false)
    (ends : ∀ c ∈ s.getLast?, isBlank c = false) : trim s = s := by
  have unchanged {t : List Char} (visible : ∀ c ∈ t.head?, isBlank c = false) :
      trimStart t = t := by
    cases t with
    | nil => rfl
    | cons c t => simp [trimStart, visible c rfl]
  rw [trim, trimEnd, unchanged begins, unchanged (by simpa using ends), List.reverse_reverse]

theorem Percent.printable_encode {set : Char → Bool}
    (covers : ∀ c, set c = false → 0x20 ≤ c.toNat) (s : List Char) :
    ∀ c ∈ encode set s, 0x20 ≤ c.toNat ∧ c.toNat < 0x80 := by
  intro c member
  rcases mem_encode member with ⟨-, kept, small⟩ | visible
  · exact ⟨covers c kept, small⟩
  · exact ⟨visible.1.le, visible.2⟩

theorem Percent.isLine_encode {set : Char → Bool} {s : List Char}
    (covers : ∀ c, set c = false → 0x20 ≤ c.toNat) (ends : ∀ c ∈ s.getLast?, 0x20 < c.toNat) :
    Ascii.IsLine (encode set s) where
  printable := printable_encode covers s
  ends := by
    rcases List.eq_nil_or_concat' s with rfl | ⟨before, last, rfl⟩
    · simp [encode]
    · have visible : Ascii.Visible (encode set [last]) :=
        visible_encode (by simpa using fun _ => ends)
      have encodes : Encodes (fun _ => false) [last] (encode set [last]) :=
        encodes_encode (by simp) [last]
      have nonempty : encode set [last] ≠ [] := encodes.ne_nil (by simp)
      have parts : encode set (before ++ [last]) = encode set before ++ encode set [last] := by
        simp [encode]
      rw [parts, List.getLast?_append_of_ne_nil _ nonempty]
      exact visible.isLine.ends

/-! ## Schemes -/

theorem Scheme.isChar_toLower {c : Char} (isChar : Scheme.isChar c = true) :
    Scheme.isChar c.toLower = true := by
  by_cases letter : c.isAlpha = true
  · exact isChar_of_isAlpha (by rw [Char.isAlpha_toLower_eq_isAlpha, letter])
  · have notCapital : ¬c.isUpper := fun capital => letter (by simp [Char.isAlpha, capital])
    rwa [Char.toLower_eq_of_not_isUpper notCapital]

theorem Scheme.isScheme_lower {name : List Char} (isScheme : IsScheme name) :
    IsScheme (Ascii.lower name) := by
  cases name with
  | nil => exact isScheme.elim
  | cons c name =>
      refine ⟨by rw [Char.isAlpha_toLower_eq_isAlpha, isScheme.1], List.forall_mem_map.2 ?_⟩
      exact fun d member => isChar_toLower (isScheme.2 d member)

theorem Uri.isScheme_of_parse {s : List Char} {uri : Uri} (parses : Uri.parse s = .ok uri) :
    Scheme.IsScheme uri.scheme.toList := by
  obtain ⟨name, rest, divided, scheme⟩ := exists_scheme_of_parse parses
  rw [scheme]
  exact Scheme.isScheme_lower (Scheme.split?_eq_some_iff.1 divided).1

namespace Uri
open Ascii

/-! ## Where the text that is read ends -/

theorem ends_clean (s : List Char) : ∀ c ∈ (clean s).getLast?, 0x20 < c.toNat := by
  intro c last
  have trimmed : clean s = ((s.dropWhile isTrimmed).rdropWhile isTrimmed).filter
      fun c => !(['\t', '\n', '\r'].contains c) := rfl
  rw [trimmed] at last
  rcases List.eq_nil_or_concat' ((s.dropWhile isTrimmed).rdropWhile isTrimmed) with
    empty | ⟨before, d, divided⟩
  · simp [empty] at last
  · have visible : 0x20 < d.toNat := by
      have kept := List.rdropWhile_last_not isTrimmed (s.dropWhile isTrimmed) (by simp [divided])
      simpa [divided, isTrimmed] using kept
    have kept : ([d].filter fun c => !(['\t', '\n', '\r'].contains c)) = [d] :=
      List.filter_cons_of_pos (not_cleaned visible)
    rw [divided, List.filter_append, kept, List.getLast?_append_of_ne_nil _ (by simp)] at last
    rwa [← Option.some.inj last]

theorem divide_eq_self {s : List Char} (nothing : (divide s).2 = (none, none)) :
    (divide s).1 = s := by
  unfold divide at nothing ⊢
  cases fragment : Text.cut? '#' s with
  | some parts => cases query : Text.cut? '?' parts.1 <;> simp [fragment, query] at nothing
  | none =>
      cases query : Text.cut? '?' s with
      | some parts => simp [fragment, query] at nothing
      | none => simp [query]

/-! ## Whole texts -/

/-- A path ends in no space if something visible follows, or if it was read from a text that ends
in none. -/
theorem isLine_of_writtenPath {s : List Char} {path : UriPath} (written : WrittenPath s path)
    {after : List Char} (visible : Visible after)
    (ends : after = [] → ∀ c ∈ s.getLast?, 0x20 < c.toNat) : IsLine (path.text ++ after) := by
  cases written with
  | segments names =>
      refine Visible.isLine (visible_append.2 ⟨?_, visible⟩)
      intro c member
      obtain ⟨name, inPath, inside⟩ := List.mem_flatMap.1 member
      exact visible_cons.2 ⟨by decide, names name inPath⟩ c inside
  | rootless =>
      have covers : ∀ c, isControl c = false → 0x20 ≤ c.toNat := fun c kept => by
        simp only [isControl, Bool.or_eq_false_iff, decide_eq_false_iff_not, not_lt] at kept
        exact kept.1
      rw [UriPath.text, String.toList_ofList]
      by_cases nothing : after = []
      · rw [nothing, List.append_nil]
        exact Percent.isLine_encode covers (ends nothing)
      · exact IsLine.of_followed (Percent.printable_encode covers s) visible nothing

def front (uri : Uri) : List Char :=
  match uri.authority with
  | some authority => '/' :: '/' :: authority.text
  | none => if ['/', '/'].isPrefixOf uri.path.text then ['/', '.'] else []

def marked (sign : Char) (part : Option String) : List Char :=
  part.elim [] fun text => sign :: text.toList

theorem visible_marked {sign : Char} {part : Option String} (seen : Visible [sign])
    (written : ∀ text ∈ part, Visible text.toList) : Visible (marked sign part) := by
  cases part with
  | none => exact visible_nil
  | some text => exact visible_cons.2 ⟨(visible_cons.1 seen).1, written text rfl⟩

theorem marked_eq_nil_iff {sign : Char} {part : Option String} :
    marked sign part = [] ↔ part = none := by
  cases part <;> simp [marked]

theorem rest_eq (uri : Uri) :
    uri.rest =
      uri.front ++ (uri.path.text ++ (marked '?' uri.query ++ marked '#' uri.fragment)) := by
  obtain ⟨scheme, authority, path, query, fragment⟩ := uri
  cases authority with
  | some authority => cases query <;> cases fragment <;> simp [rest, front, marked]
  | none =>
      by_cases slashes : ['/', '/'].isPrefixOf path.text <;> cases query <;> cases fragment <;>
        simp [rest, front, marked, slashes]

theorem visible_front {uri : Uri}
    (written : ∀ authority, uri.authority = some authority → Visible authority.text) :
    Visible uri.front := by
  unfold front
  split
  · rename_i authority isAuthority
    exact visible_cons.2 ⟨by decide, visible_cons.2 ⟨by decide, written authority isAuthority⟩⟩
  · split_ifs
    · decide
    · exact visible_nil

theorem isLine_rest {s : List Char} {uri : Uri} (parses : Uri.parse s = .ok uri) :
    IsLine uri.rest := by
  unfold Uri.parse at parses
  split at parses
  · cases parses
  · rename_i name rest divided
    dsimp only at parses
    obtain ⟨⟨authority, path⟩, reads, parses⟩ := bind_eq_ok_iff.1 parses
    obtain rfl := Except.ok.inj parses
    obtain ⟨ofAuthority, ofPath⟩ := written_hierarchy reads
    rw [rest_eq]
    refine (visible_front ofAuthority).isLine.append (isLine_of_writtenPath ofPath ?_ ?_)
    · refine visible_append.2 ⟨visible_marked (by decide) ?_, visible_marked (by decide) ?_⟩
      · rintro text isQuery
        obtain ⟨query, -, rfl⟩ := Option.map_eq_some_iff.1 isQuery
        rw [String.toList_ofList]
        exact Percent.visible_encode fun _ _ => visible_of_not_inQuery
      · rintro text isFragment
        obtain ⟨fragment, -, rfl⟩ := Option.map_eq_some_iff.1 isFragment
        rw [String.toList_ofList]
        exact Percent.visible_encode fun _ _ => visible_of_not_inFragment
    · -- Nothing follows the path, so it ends where the cleaned text does.
      intro nothing c last
      obtain ⟨noQuery, noFragment⟩ := List.append_eq_nil_iff.1 nothing
      have whole : (divide rest).1 = rest := divide_eq_self (Prod.ext
        (Option.map_eq_none_iff.1 (marked_eq_nil_iff.1 noQuery))
        (Option.map_eq_none_iff.1 (marked_eq_nil_iff.1 noFragment)))
      obtain ⟨-, cleaned⟩ := Scheme.split?_eq_some_iff.1 divided
      rw [whole] at last
      obtain ⟨before, rfl⟩ := List.getLast?_eq_some_iff.1 last
      exact ends_clean s c (List.getLast?_eq_some_iff.2 ⟨name ++ ':' :: before, by simp [cleaned]⟩)

theorem isLine_text {s : List Char} {uri : Uri} (parses : Uri.parse s = .ok uri) :
    IsLine uri.text.toList := by
  have scheme : Visible uri.scheme.toList := fun c member =>
    Scheme.toNat_of_isChar (Scheme.isChar_of_mem (isScheme_of_parse parses) c member)
  have colon : Visible [':'] := by decide
  rw [toList_text, List.append_cons]
  exact (visible_append.2 ⟨scheme, colon⟩).isLine.append (isLine_rest parses)

theorem trim_text {s : List Char} {uri : Uri} (parses : Uri.parse s = .ok uri) :
    Blank.trim uri.text.toList = uri.text.toList := by
  have line := isLine_text parses
  refine Blank.trim_of_ends ?_ fun c last =>
    Blank.isBlank_of_ascii (line.ends c last) (line.printable c (List.mem_of_getLast? last)).2
  intro c first
  have isScheme := isScheme_of_parse parses
  rw [toList_text] at first
  cases name : uri.scheme.toList with
  | nil =>
      rw [name] at isScheme
      exact isScheme.elim
  | cons d name' =>
      rw [name] at first isScheme
      obtain rfl := Option.some.inj first
      exact Scheme.isBlank_of_isChar (Scheme.isChar_of_isAlpha isScheme.1)

end Uri

end RequestUploads
