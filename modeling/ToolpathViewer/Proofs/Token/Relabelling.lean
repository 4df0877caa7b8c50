import ToolpathViewer.Proofs.Outcome
import ToolpathViewer.Proofs.Text.UpperCase
import ToolpathViewer.Proofs.Token.Replacing
import ToolpathViewer.Toolpath.Line

/-!
# Relabelled programs

Every axis of a program is called by the name of the next one: its coordinates get the next letter, and its planes the next code. The
tokens of the relabelled text are those of the text, each with its new name (`forall₂_scan_relabel`): every name may be replaced by the
new one (`replaces_relabelled`).
-/

namespace ToolpathViewer

namespace Plane

/-- The plane of the next axes. -/
def next : Plane → Plane
  | .xy => .yz
  | .yz => .zx
  | .zx => .xy

/-- Every plane is found by its code. -/
theorem ofCode?_code (p : Plane) : ofCode? p.code.toList = some p := by
  cases p <;> decide

/-- A plane is found by its own code only. -/
theorem code_of_ofCode? {code : List Char} {p : Plane} (h : ofCode? code = some p) : p.code.toList = code := by
  have hp := List.find?_some h
  exact beq_iff_eq.1 hp

/-- The code of a plane is in normal form. -/
theorem normalize_code (p : Plane) : Code.normalize p.code.toList = .ok p.code.toList := by
  cases p <;> rfl

end Plane

namespace Token

open Text

/-- The letter of the next axis, for a letter of an axis or of the way to a center along one, in either case. -/
def nextLetter (c : Char) : Char :=
  match upperChar c with
  | ['X'] => 'Y'
  | ['Y'] => 'Z'
  | ['Z'] => 'X'
  | ['I'] => 'J'
  | ['J'] => 'K'
  | ['K'] => 'I'
  | _ => c

/-- The plane that the text of a command selects. -/
def plane? (text : List Char) : Option Plane := (Code.normalize text).toOption.bind Plane.ofCode?

/-- The text of a token with the names of the next axes. -/
def relabelled (t : Token) : List Char :=
  match t.kind with
  | .coordinate => t.text.modifyHead nextLetter
  | .command => ((plane? t.text).map fun p => p.next.code.toList).getD t.text
  | _ => t.text

/-- A text with the names of the next axes. -/
def relabel (text : List Char) : List Char := (ofText text).flatMap relabelled

/-- The token has the new name of another one, wherever it stands. -/
structure Relabels (t t' : Token) : Prop where
  kind : t'.kind = t.kind
  text : t'.text = t.relabelled

/-! ## The codes of planes -/

/-- A text that names a plane has the plane's code as its normal form. -/
theorem normalize_of_plane? {text : List Char} {p : Plane} (h : plane? text = some p) :
    Code.normalize text = .ok p.code.toList := by
  obtain ⟨code, hcode, hp⟩ := Option.bind_eq_some_iff.1 h
  rw [Plane.code_of_ofCode? hp]
  exact eq_ok_of_toOption hcode

/-- The codes of planes are commands. -/
theorem code_eq_cons (p : Plane) : ∃ digits, p.code.toList = 'G' :: digits ∧ ∀ d ∈ digits, Kind.continues .command d = true := by
  cases p <;> exact ⟨_, rfl, List.all_eq_true.1 (by decide)⟩

/-- The code of a plane is one token. -/
theorem scan_code (p : Plane) : scan 0 p.code.toList = [⟨.command, 0, p.code.toList.length, p.code.toList⟩] := by
  obtain ⟨digits, hcode, hdigits⟩ := code_eq_cons p
  have hwhole : Whole (Kind.ofFirst 'G') ('G' :: digits) [] := .run (by decide) 'G' hdigits nofun
  have hone := scan_whole hwhole 0
  rw [List.append_nil, scan_nil, Int.zero_add] at hone
  rw [hcode]
  exact hone

/-! ## One name -/

/-- The characters that new names start with. -/
def newHeads : List Char := ['X', 'Y', 'Z', 'I', 'J', 'K', 'G']

/-- A character that is one of some letters is a letter. -/
theorem isLetter_of_isOneOf {letters : List Char} (hletters : ∀ u ∈ letters, u.isUpper = true) {c : Char}
    (h : isOneOf letters c = true) : isLetter c = true := by
  unfold isOneOf at h
  split at h
  · rename_i u hu
    exact isLetter_of_upperChar hu (hletters u (List.contains_iff_mem.1 h))
  · cases h

/-- A letter that opens a word gives way to a new name. -/
theorem givesWay_newHeads {c c' : Char} (hletter : isLetter c = true) (hspace : isSpace c = false) (hnew : c' ∈ newHeads) :
    GivesWay c c' := by
  refine ⟨fun k hk => ?_, ?_⟩
  · cases k with
    | command => simp [Kind.continues, hletter] at hk
    | word => simp [Kind.continues, hspace] at hk
    | comment | bad => rfl
    | space | coordinate | number =>
      simp only [newHeads, List.mem_cons, List.not_mem_nil, or_false] at hnew
      rcases hnew with rfl | rfl | rfl | rfl | rfl | rfl | rfl <;> rfl
  · rintro (rfl | rfl) <;> cases hspace

/-- What opens a command or a coordinate is a letter. -/
theorem isLetter_of_ofFirst {c : Char} (h : Kind.ofFirst c = .command ∨ Kind.ofFirst c = .coordinate) :
    isLetter c = true ∧ isSpace c = false := by
  have hcommands : ∀ u ∈ commandLetters, u.isUpper = true := List.all_eq_true.1 (by decide)
  have hcoordinates : ∀ u ∈ coordinateLetters, u.isUpper = true := List.all_eq_true.1 (by decide)
  have hspace : isSpace c = false := by
    by_contra hspace
    rw [ofFirst_eq_space (by simpa using hspace)] at h
    rcases h with h | h <;> cases h
  refine ⟨?_, hspace⟩
  by_contra hletter
  have hcommand : isOneOf commandLetters c = false :=
    Bool.eq_false_iff.2 fun hone => hletter (isLetter_of_isOneOf hcommands hone)
  have hcoordinate : isOneOf coordinateLetters c = false :=
    Bool.eq_false_iff.2 fun hone => hletter (isLetter_of_isOneOf hcoordinates hone)
  unfold Kind.ofFirst at h
  rw [hspace, hcommand, hcoordinate] at h
  simp only [Bool.false_eq_true, if_false] at h
  rcases h with h | h <;> split_ifs at h

/-- A letter stays, or becomes one of the new ones, which open coordinates. -/
theorem nextLetter_cases (c : Char) : nextLetter c = c ∨ nextLetter c ∈ newHeads ∧ Kind.ofFirst (nextLetter c) = .coordinate := by
  unfold nextLetter
  split
  case h_7 => exact Or.inl rfl
  all_goals exact Or.inr ⟨by decide, by decide⟩

/-- A token may have its new name. -/
theorem replaces_relabelled {t : Token} {c : Char} {more : List Char} (htext : t.text = c :: more) (hk : Kind.ofFirst c = t.kind) :
    Replaces t t.relabelled := by
  unfold relabelled
  split
  · rename_i hkind
    rw [hkind] at hk
    obtain ⟨hletter, hspace⟩ := isLetter_of_ofFirst (Or.inr hk)
    rw [htext, List.modifyHead_cons]
    refine ⟨⟨nextLetter c, more, rfl, ?_, fun d hd => ?_⟩, fun after h => ?_⟩
    · rw [hkind]
      rcases nextLetter_cases c with hsame | ⟨-, hopens⟩
      · rw [hsame, hk]
      · exact hopens
    · rw [htext] at hd
      obtain rfl := Option.some.inj hd
      rcases nextLetter_cases c with hsame | ⟨hnew, -⟩
      · rw [hsame]
        exact .refl c
      · exact givesWay_newHeads hletter hspace hnew
    · rw [hkind, htext] at h
      rw [hkind]
      cases h with
      | run hcomment _ hmore hafter => exact .run hcomment _ hmore hafter
  · rename_i hkind
    cases hplane : plane? t.text with
    | none => exact .refl htext hk
    | some p =>
      rw [hkind] at hk
      obtain ⟨hletter, hspace⟩ := isLetter_of_ofFirst (Or.inl hk)
      obtain ⟨digits, hcode, hdigits⟩ := code_eq_cons p.next
      refine ⟨⟨'G', digits, hcode, by rw [hkind]; decide, fun d hd => ?_⟩, fun after h => ?_⟩
      · rw [htext] at hd
        obtain rfl := Option.some.inj hd
        exact givesWay_newHeads hletter hspace (by decide)
      · rw [hkind, htext] at h
        rw [Option.map_some, Option.getD_some, hcode, hkind]
        cases h with
        | run hcomment _ _ hafter => exact .run hcomment _ hdigits hafter
  · exact .refl htext hk

/-! ## All names -/

/-- Wherever a text and the relabelled text stand, the tokens of the second are those of the first with their new names. -/
theorem forall₂_scan_relabel (start start' : Int) (text : List Char) :
    List.Forall₂ Relabels (scan start text) (scan start' (relabel text)) := by
  have htiling := tiling_scan start text
  have hplace : relabel text = ((scan start text).map relabelled).flatten := by
    rw [relabel, scan_eq_map_shift start, List.map_map, List.flatMap_def]
    rfl
  have hwords : List.Forall₂ (fun t word => word = t.relabelled ∧ Replaces t word) (scan start text)
      ((scan start text).map relabelled) := by
    rw [List.forall₂_map_right_iff, List.forall₂_same]
    intro t ht
    obtain ⟨c, more, htext, hk⟩ := htiling.opens t ht
    exact ⟨rfl, replaces_relabelled htext hk⟩
  rw [hplace]
  exact (htiling.forall₂_replaced hwords start').imp fun t t' h => ⟨h.1, h.2⟩

example : relabel "G018 x1(X) I.5;G18".toList = "G17 Y1(X) J.5;G18".toList := by decide +kernel

end Token

end ToolpathViewer
