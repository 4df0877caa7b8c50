import ToolpathViewer.Config.Stored
import ToolpathViewer.Proofs.Files
import ToolpathViewer.Proofs.Json.Nesting
import ToolpathViewer.Proofs.Json.RoundTrip

/-!
# Configurations that are loaded

What a file gives when it is loaded as a configuration, whatever stands in it (`loading_falls_back`). A file with an object gives one with
a theme that exists, and a file that cannot be read or holds no JSON gives the usual one. A file with any other value, or with values
that nest too deep, gives none.
-/

namespace ToolpathViewer

/-- The file that a path leads to holds a JSON value. -/
def Files.Holds [Json.Room] (files : Files) (path : String) (v : Json) : Prop :=
  ∃ text, files.read path = .ok text ∧ Json.parse text = .ok v

namespace Config

/-- The configuration has a theme that exists. -/
def HasTheme (c : Config) : Prop := ∃ t : Theme, c.theme = .str t.name

variable {e : Environment} {c : Config} {files : Files} {path text : String} {why : Fault} {v : Json}

/-! ## Themes -/

/-- A theme is found by its own name only. -/
theorem ofName?_eq_some {name : String} {t : Theme} (h : Theme.ofName? name = some t) : name = t.name := by
  have hname := List.find?_some h
  exact (beq_iff_eq.1 hname).symm

/-- A configuration that names a theme is settled as it is. -/
theorem settleTheme_of_hasTheme (h : c.HasTheme) : c.settleTheme = (c, []) := by
  obtain ⟨t, ht⟩ := h
  rw [settleTheme, ht, Json.str?, Option.bind_some, Theme.ofName?_name]

/-- A theme that does not exist gives way to the dark one. -/
theorem hasTheme_settleTheme (c : Config) : c.settleTheme.1.HasTheme := by
  unfold settleTheme
  split
  · rename_i t ht
    obtain ⟨name, hname, ht⟩ := Option.bind_eq_some_iff.1 ht
    refine ⟨t, ?_⟩
    cases htheme : c.theme with
    | str name' =>
      rw [htheme] at hname
      rw [Option.some.inj hname, ofName?_eq_some ht]
    | null | bool | int | num | arr | obj =>
      rw [htheme] at hname
      cases hname
  · exact ⟨.dark, rfl⟩

/-- The environment does not touch the theme. -/
theorem theme_override (e : Environment) (c : Config) : (override e c).theme = c.theme := by
  unfold override
  cases Environment.flag? e.verbose <;> cases Environment.flag? e.lexerDebug <;> rfl

/-- The environment does not take the theme away. -/
theorem hasTheme_override (h : c.HasTheme) : (override e c).HasTheme := by
  obtain ⟨t, ht⟩ := h
  exact ⟨t, (theme_override e c).trans ht⟩

/-- The usual configuration names a theme. -/
theorem hasTheme_usual (e : Environment) : (usual e).HasTheme := hasTheme_override ⟨.dark, rfl⟩

/-! ## Contents -/

/-- Loading forgives every reason for which a file cannot be read. -/
theorem isForgiven_of_unreadable (h : Files.Unreadable why) : isForgiven why = true := by
  rcases h with h | rfl | rfl
  · cases why <;> first | rfl | exact h
  · rfl
  · rfl

section Room

variable [Json.Room]

/-- After a forgiven failure the usual configuration is used. -/
theorem load_of_forgiven {content : Except Fault String} (h : content.bind parse = .error why) (hforgiven : isForgiven why = true) :
    load e path content = .ok (usual e, [.unreadable path why]) := by
  rw [load, h]
  dsimp only
  rw [if_pos hforgiven]

/-- Any other failure goes further. -/
theorem load_of_not_forgiven {content : Except Fault String} (h : content.bind parse = .error why) (hforgiven : isForgiven why = false) :
    load e path content = .error why := by
  rw [load, h]
  dsimp only
  rw [if_neg (by simp [hforgiven])]

/-- An object gives a configuration, in which the theme is settled before the environment counts. -/
theorem load_of_object {fields : Json.Fields} (h : Json.parse text = .ok (.obj fields)) :
    load e path (.ok text) = .ok (override e (ofFields fields).settleTheme.1, (ofFields fields).settleTheme.2) := by
  have hparse : (Except.ok text : Except Fault String).bind parse = .ok (ofFields fields) := by
    change parse text = _
    rw [parse, h]
  rw [load, hparse]

/-- A text that is not JSON fails for the reason for which it cannot be read. -/
theorem parse_of_error (h : Json.parse text = .error why) : (Except.ok text : Except Fault String).bind parse = .error why := by
  change parse text = _
  rw [parse, h]

/-- A value that is no object gives no configuration. -/
theorem load_of_value (h : Json.parse text = .ok v) (hv : ∀ fields, v ≠ .obj fields) : load e path (.ok text) = .error .noFields := by
  refine load_of_not_forgiven ?_ rfl
  change parse text = _
  rw [parse, h]
  cases v with
  | obj fields => exact absurd rfl (hv fields)
  | null | bool | int | num | str | arr => rfl

/-- Whatever stands at a path, there are four cases. A file that holds an object gives a configuration, and its theme exists. When no value
can be had, because there is no file, it is no UTF-8 or no JSON, the usual configuration of the environment is used, and so it is reported.
A file with a value that is no object gives no configuration, and neither does one whose values nest too deep to be read. -/
theorem loading_falls_back (e : Environment) (files : Files) (path : String) :
    (∃ fields c notices, files.Holds path (.obj fields) ∧ load e path (files.read path) = .ok (c, notices) ∧ c.HasTheme) ∨
      ((∀ v, ¬files.Holds path v) ∧ (∃ why, load e path (files.read path) = .ok (usual e, [.unreadable path why])) ∧
        (usual e).HasTheme) ∨
      (∃ v, files.Holds path v ∧ (∀ fields, v ≠ .obj fields) ∧ load e path (files.read path) = .error .noFields) ∨
      ((∀ v, ¬files.Holds path v) ∧ ∃ text, files.read path = .ok text ∧ Json.maxDepth < Json.nesting text ∧
        load e path (files.read path) = .error .tooDeep) := by
  cases hread : files.read path with
  | error why =>
    have hnone : ∀ v, ¬files.Holds path v := by
      rintro v ⟨text, htext, -⟩
      rw [hread] at htext
      cases htext
    have hforgiven := isForgiven_of_unreadable (Files.failsOnly_read files path why hread)
    exact Or.inr (Or.inl ⟨hnone, ⟨why, load_of_forgiven rfl hforgiven⟩, hasTheme_usual e⟩)
  | ok text =>
    cases hparse : Json.parse text with
    | error why =>
      have hnone : ∀ v, ¬files.Holds path v := by
        rintro v ⟨text', htext, hv⟩
        obtain rfl := Except.ok.inj (hread.symm.trans htext)
        rw [hparse] at hv
        cases hv
      rcases Json.explained_parse text why hparse with rfl | rfl
      · exact Or.inr (Or.inl ⟨hnone, ⟨_, load_of_forgiven (parse_of_error hparse) rfl⟩, hasTheme_usual e⟩)
      · have hload : load e path (.ok text) = .error .tooDeep := load_of_not_forgiven (parse_of_error hparse) rfl
        exact Or.inr (Or.inr (Or.inr ⟨hnone, text, rfl, Json.maxDepth_lt_nesting hparse, hload⟩))
    | ok v =>
      have hholds : files.Holds path v := ⟨text, hread, hparse⟩
      by_cases hv : ∃ fields, v = .obj fields
      · obtain ⟨fields, rfl⟩ := hv
        exact Or.inl ⟨fields, _, _, hholds, load_of_object hparse, hasTheme_override (hasTheme_settleTheme _)⟩
      · have hother := not_exists.1 hv
        exact Or.inr (Or.inr (Or.inl ⟨v, hholds, hother, load_of_value hparse hother⟩))

end Room

section Usual

attribute [local instance] Json.Room.usual

/-- A file that holds an empty array gives no configuration, not even the usual one. -/
theorem array_is_no_configuration :
    load {} "viewer.json" (Files.read (Files.add [] "viewer.json" (.file [0x5B, 0x5D])) "viewer.json") = .error .noFields := by
  have hread : Files.read (Files.add [] "viewer.json" (.file [0x5B, 0x5D])) "viewer.json" = .ok "[]" := by decide +kernel
  have hcompact : (Json.arr []).compact = "[]" := by decide +kernel
  have hparse := Json.parse_compact (.ample (.arr fun v hv => absurd hv List.not_mem_nil))
  rw [hcompact] at hparse
  rw [hread]
  exact load_of_value hparse nofun

end Usual

end Config

end ToolpathViewer
