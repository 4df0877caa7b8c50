import ToolpathViewer.Proofs.Code
import ToolpathViewer.Proofs.Token.Replacing

/-!
# Programs in another spelling

The tokens of a program may be spelled in other ways: each of them in letters of either case, and a command as its code may be
(`Token.Respelled`). The tokens of the text with other spellings are these spellings, of the same kinds (`Respelled.forall₂_respells`),
although they may be longer or shorter and stand elsewhere.
-/

namespace ToolpathViewer.Token

open Text

/-- The word is a spelling of the token. -/
def Spelled (t : Token) (word : List Char) : Prop := Recased t.text word ∨ t.kind = .command ∧ Code.Renumbered t.text word

instance (t : Token) (word : List Char) : Decidable (Spelled t word) := inferInstanceAs (Decidable (_ ∨ _))

/-- The second text is the first one with all its tokens in some spelling. -/
def Respelled (text text' : List Char) : Prop := ∃ words, List.Forall₂ Spelled (ofText text) words ∧ text' = words.flatten

/-- The second token is a spelling of the first one, wherever it stands. -/
structure Respells (t t' : Token) : Prop where
  kind : t'.kind = t.kind
  text : Spelled t t'.text

/-- A spelling of a command is one of its code. -/
theorem Spelled.respelled {t : Token} {word : List Char} (h : Spelled t word) : Code.Respelled t.text word := h.imp_right And.right

/-- Apart from commands, a token is spelled anew by its case alone. -/
theorem Spelled.recased {t : Token} {word : List Char} (h : Spelled t word) (hk : t.kind ≠ .command) : Recased t.text word :=
  h.resolve_right fun hcommand => hk hcommand.1

/-! ## Letters in either case -/

/-- No letter is a space. -/
theorem not_isSpace_of_isAlpha {c : Char} (h : c.isAlpha = true) : isSpace c = false :=
  of_isAlpha (p := fun c => isSpace c = false) (by decide) h

/-- A letter continues commands and words, and nothing else. -/
theorem continues_of_isAlpha (k : Kind) {c : Char} (h : c.isAlpha = true) : k.continues c = (k == .command || k == .word) := by
  refine of_isAlpha (p := fun c => k.continues c = (k == .command || k == .word)) ?_ h
  cases k <;> decide

/-- The case of a letter does not decide how far a token reaches. -/
theorem continues_eq {c c' : Char} (h : SameLetter c c') (k : Kind) : k.continues c' = k.continues c :=
  h.congr fun _ => continues_of_isAlpha k

/-- Which letter a character is does not depend on its case. -/
theorem isOneOf_eq {c c' : Char} (h : SameLetter c c') (letters : List Char) : isOneOf letters c' = isOneOf letters c := by
  unfold isOneOf
  rw [h.upperChar_eq]

/-- The case of a letter does not decide which kind of token it opens. -/
theorem ofFirst_eq {c c' : Char} (h : SameLetter c c') : Kind.ofFirst c' = Kind.ofFirst c := by
  have hspace : isSpace c' = isSpace c := h.congr fun _ => not_isSpace_of_isAlpha
  have hdigit : isDigit c' = isDigit c := h.congr fun _ => not_isDigit_of_isAlpha
  have hopen : (c' == '(') = (c == '(') := h.beq_eq (by decide)
  have hminus : (c' == '-') = (c == '-') := h.beq_eq (by decide)
  have hplus : (c' == '+') = (c == '+') := h.beq_eq (by decide)
  simp only [Kind.ofFirst, isOneOf_eq h, hopen, hspace, hdigit, hminus, hplus]

/-- A character gives way to its other case. -/
theorem givesWay_of_sameLetter {c c' : Char} (h : SameLetter c c') : GivesWay c c' := by
  refine ⟨fun k hk => by rwa [continues_eq h], ?_⟩
  rintro (rfl | rfl)
  · exact Or.inl (h.eq_of_not_isAlpha (by decide))
  · exact Or.inr (h.eq_of_not_isAlpha (by decide))

/-- The other case of a character inside a remark is inside it. -/
theorem Inside.sameLetter {c c' : Char} (h : Inside c) (hcase : SameLetter c c') : Inside c' := by
  rcases hcase.cases with rfl | ⟨-, halpha⟩
  · exact h
  · refine ⟨?_, ?_, ?_⟩
    all_goals
      rintro rfl
      exact absurd halpha (by decide)

/-- What does not depend on the case of letters holds of the characters of both texts. -/
theorem forall_mem_recased {p : Char → Prop} (hp : ∀ c c', SameLetter c c' → p c → p c') {s s' : List Char} (h : Recased s s')
    (hs : ∀ c ∈ s, p c) : ∀ c' ∈ s', p c' := by
  induction h with
  | nil => simp
  | cons hc _ ih =>
    obtain ⟨hfirst, hrest⟩ := List.forall_mem_cons.1 hs
    exact List.forall_mem_cons.2 ⟨hp _ _ hc hfirst, ih hrest⟩

/-- A token reaches as far in letters of either case. -/
theorem Whole.recased {k : Kind} {text word after : List Char} (h : Whole k text after) (hcase : Recased text word) :
    Whole k word after := by
  cases h with
  | closed hremark =>
    cases hcase with
    | cons hopen hrest =>
      obtain rfl := hopen.eq_of_not_isAlpha (by decide)
      obtain ⟨remark', mark, hremark', hmark, rfl⟩ := Recased.exists_of_append hrest
      obtain ⟨c, rest, hc, hnone, rfl⟩ := List.forall₂_cons_left_iff.1 hmark
      obtain rfl := List.forall₂_nil_left_iff.1 hnone
      obtain rfl := hc.eq_of_not_isAlpha (by decide)
      exact .closed (forall_mem_recased (fun _ _ hc hin => hin.sameLetter hc) hremark' hremark) _
  | unclosed hremark hafter =>
    cases hcase with
    | cons hopen hrest =>
      obtain rfl := hopen.eq_of_not_isAlpha (by decide)
      exact .unclosed (forall_mem_recased (fun _ _ hc hin => hin.sameLetter hc) hrest hremark) hafter
  | run hcomment c hmore hafter =>
    cases hcase with
    | cons hfirst hrest =>
      exact .run hcomment _ (forall_mem_recased (fun _ _ hc hd => (continues_eq hc _).trans hd) hrest hmore) hafter

/-- A token may be replaced by its text in other case. -/
theorem replaces_of_recased {t : Token} {c : Char} {more word : List Char} (htext : t.text = c :: more) (hk : Kind.ofFirst c = t.kind)
    (h : Recased t.text word) : Replaces t word := by
  refine ⟨?_, fun after hwhole => hwhole.recased h⟩
  rw [htext] at h ⊢
  cases h with
  | cons hc hrest =>
    refine ⟨_, _, rfl, (ofFirst_eq hc).trans hk, fun d hd => ?_⟩
    obtain rfl := Option.some.inj hd
    exact givesWay_of_sameLetter hc

/-! ## Commands with numbers -/

/-- A command may be replaced by the same command with its number in another spelling: digits go on as far as a command does. -/
theorem replaces_of_renumbered {t : Token} {c : Char} {more word : List Char} (htext : t.text = c :: more) (hk : Kind.ofFirst c = t.kind)
    (hcommand : t.kind = .command) (h : Code.Renumbered t.text word) : Replaces t word := by
  obtain ⟨c', digits, rfl, -, -, hdigits, -⟩ := Code.exists_of_isNumbered h.numbered'
  have hletter := h.letter
  rw [htext] at hletter
  have hc : SameLetter c c' := (List.forall₂_cons.1 hletter).1
  have hmore : ∀ d ∈ digits, Kind.continues .command d = true := by
    intro d hd
    rw [Kind.continues, isDigit_of_isDigit (hdigits d hd), Bool.or_true]
  refine ⟨⟨c', digits, rfl, (ofFirst_eq hc).trans hk, fun d hd => ?_⟩, fun after hwhole => ?_⟩
  · rw [htext] at hd
    obtain rfl := Option.some.inj hd
    exact givesWay_of_sameLetter hc
  · rw [hcommand, htext] at hwhole
    rw [hcommand]
    cases hwhole with
    | run hcomment _ _ hafter => exact .run hcomment c' hmore hafter

/-- Every token may be replaced by each of its spellings. -/
theorem Spelled.replaces {t : Token} {c : Char} {more word : List Char} (h : Spelled t word) (htext : t.text = c :: more)
    (hk : Kind.ofFirst c = t.kind) : Replaces t word := by
  rcases h with hcase | ⟨hcommand, hnumber⟩
  · exact replaces_of_recased htext hk hcase
  · exact replaces_of_renumbered htext hk hcommand hnumber

/-! ## All tokens -/

/-- The tokens of a text in another spelling are spellings of the tokens of the text. -/
theorem Respelled.forall₂_respells {text text' : List Char} (h : Respelled text text') :
    List.Forall₂ Respells (ofText text) (ofText text') := by
  obtain ⟨words, hwords, rfl⟩ := h
  have htiling := tiling_scan 0 text
  have hboth : List.Forall₂ (fun t word => Spelled t word ∧ Replaces t word) (ofText text) words := by
    refine ((List.forall₂_and_left _ _).2 ⟨htiling.opens, hwords⟩).imp fun t word h => ?_
    obtain ⟨⟨c, more, htext, hk⟩, hspelled⟩ := h
    exact ⟨hspelled, hspelled.replaces htext hk⟩
  exact (htiling.forall₂_replaced hboth 0).imp fun t t' h => ⟨h.1, h.2⟩

/-- A text in other case is one in which each token is spelled anew. -/
theorem exists_spelled_of_recased {ts : List Token} {s : List Char} (h : Recased (ts.flatMap text) s) :
    ∃ words, List.Forall₂ Spelled ts words ∧ s = words.flatten := by
  induction ts generalizing s with
  | nil =>
    cases h
    exact ⟨[], .nil, rfl⟩
  | cons t ts ih =>
    rw [List.flatMap_cons] at h
    obtain ⟨word, rest, hword, hrest, rfl⟩ := h.exists_of_append
    obtain ⟨words, hwords, rfl⟩ := ih hrest
    exact ⟨word :: words, .cons (Or.inl hword) hwords, rfl⟩

/-- Every letter of a text may be in either case. -/
theorem respelled_of_recased {text text' : List Char} (h : Recased text text') : Respelled text text' := by
  rw [← (tiling_scan 0 text).flatMap_text] at h
  exact exists_spelled_of_recased h

example : Respelled "g1 x1 (Rapid)".toList "G1 X1 (RAPID)".toList := respelled_of_recased (by decide)

end ToolpathViewer.Token
