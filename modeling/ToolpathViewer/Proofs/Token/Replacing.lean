import ToolpathViewer.Proofs.Token.Tiling

/-!
# Texts with other words in place of their tokens

A word may be put in place of a token when it is a token of the same kind, and when no token in front of it goes on over it that ended in
front of the old one (`Replaces`). With such words in place of all its tokens a text has these words as its tokens, of the kinds that it
had before (`Tiling.forall₂_replaced`).
-/

namespace ToolpathViewer.Token

/-- Where a character gives way to another one, the token in front of it ends as before. -/
structure GivesWay (c c' : Char) : Prop where
  continues : ∀ k : Kind, k.continues c = false → k.continues c' = false
  lineEnd : c = '\r' ∨ c = '\n' → c' = '\r' ∨ c' = '\n'

/-- Every character gives way to itself. -/
theorem GivesWay.refl (c : Char) : GivesWay c c := ⟨fun _ hk => hk, fun hc => hc⟩

/-- A word may be put in place of a token. -/
structure Replaces (t : Token) (word : List Char) : Prop where
  opens : ∃ c' more', word = c' :: more' ∧ Kind.ofFirst c' = t.kind ∧ ∀ c ∈ t.text.head?, GivesWay c c'
  whole : ∀ after, Whole t.kind t.text after → Whole t.kind word after

/-- Every token is a word that may be put in its place. -/
theorem Replaces.refl {t : Token} {c : Char} {more : List Char} (htext : t.text = c :: more) (hk : Kind.ofFirst c = t.kind) :
    Replaces t t.text := by
  refine ⟨⟨c, more, htext, hk, fun d hd => ?_⟩, fun _ h => h⟩
  rw [htext] at hd
  obtain rfl := Option.some.inj hd
  exact .refl _

/-- A token reaches as far as before when the character behind it gives way to another one. -/
theorem Whole.of_givesWay {k : Kind} {text s s' : List Char} (h : Whole k text s)
    (hs : ∀ c' ∈ s'.head?, ∃ c ∈ s.head?, GivesWay c c') : Whole k text s' := by
  cases h with
  | closed hremark => exact .closed hremark _
  | unclosed hremark hafter =>
    refine .unclosed hremark fun c' hc' => ?_
    obtain ⟨c, hc, hgives⟩ := hs c' hc'
    exact hgives.lineEnd (hafter c hc)
  | run hcomment c hmore hafter =>
    refine .run hcomment c hmore fun c' hc' => ?_
    obtain ⟨d, hd, hgives⟩ := hs c' hc'
    exact hgives.continues _ (hafter d hd)

namespace Tiling

variable {start : Int} {s : List Char} {ts : List Token} {words : List (List Char)}

/-- A token is as its first character asks for. -/
theorem opens (h : Tiling start s ts) : ∀ t ∈ ts, ∃ c more, t.text = c :: more ∧ Kind.ofFirst c = t.kind := by
  induction h with
  | nil => simp
  | cons _ _ ih => exact List.forall_mem_cons.2 ⟨⟨_, _, rfl, rfl⟩, ih⟩

/-- A text of words in place of tokens begins with a character that the first one of the text gives way to. -/
theorem head?_replaced (h : Tiling start s ts) (hwords : List.Forall₂ Replaces ts words) :
    ∀ c' ∈ words.flatten.head?, ∃ c ∈ s.head?, GivesWay c c' := by
  cases h with
  | nil =>
    cases hwords
    simp
  | @cons _ c more after ts hwhole hrest =>
    cases hwords with
    | cons hword _ =>
      obtain ⟨c', more', rfl, -, hgives⟩ := hword.opens
      intro d hd
      rw [List.flatten_cons, List.cons_append] at hd
      obtain rfl := Option.some.inj hd
      exact ⟨c, rfl, hgives c rfl⟩

/-- The tokens of a text with words in place of its tokens are these words, of the kinds of the tokens. -/
theorem forall₂_replaced {R : Token → List Char → Prop} (h : Tiling start s ts)
    (hwords : List.Forall₂ (fun t word => R t word ∧ Replaces t word) ts words) (start' : Int) :
    List.Forall₂ (fun t t' => t'.kind = t.kind ∧ R t t'.text) ts (scan start' words.flatten) := by
  induction h generalizing start' words with
  | nil =>
    cases hwords
    rw [List.flatten_nil, scan_nil]
    exact .nil
  | @cons start c more after ts hwhole hrest ih =>
    cases hwords with
    | @cons _ word _ words hword hwords =>
      obtain ⟨c', more', rfl, hkind, -⟩ := hword.2.opens
      -- The old token ends in front of the words behind it as it did in front of the rest, and so does the new one.
      have hnew := hword.2.whole _ (hwhole.of_givesWay (hrest.head?_replaced (hwords.imp fun _ _ h => h.2)))
      rw [← hkind] at hnew
      rw [List.flatten_cons, scan_whole hnew]
      exact .cons ⟨hkind, hword.1⟩ (ih hwords _)

end Tiling

end ToolpathViewer.Token
