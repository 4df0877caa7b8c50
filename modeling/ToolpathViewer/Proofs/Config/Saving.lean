import ToolpathViewer.Proofs.Config.Loading

/-!
# Configurations that are saved and loaded again

A configuration whose values have the types of its fields, and whose theme exists, is read back from the file that it was saved to. Then
the environment counts, and one that sets nothing makes the flag for tracing tokens follow the one for reporting more, even if the file
says otherwise (`saved_configuration_comes_back`).
-/

namespace ToolpathViewer.Config

/-- The value is an integer. A flag counts as one. -/
inductive IsInteger : Json → Prop
  | int (n : Int) : IsInteger (.int n)
  | flag (b : Bool) : IsInteger (.bool b)

/-- Every value of the configuration has the type of its field. -/
structure WellTyped (c : Config) : Prop where
  codes : ∃ codes : List String, c.codes = .arr (codes.map .str)
  limit : c.limit = .null ∨ IsInteger c.limit
  divisions : IsInteger c.divisions
  capacity : IsInteger c.capacity
  host : ∃ host, c.host = .str host
  theme : ∃ theme, c.theme = .str theme
  verbose : ∃ b, c.verbose = .bool b
  lexerDebug : ∃ b, c.lexerDebug = .bool b

variable {c : Config} {files files' : Files} {path : String}

/-! ## The written form -/

/-- Integers can be read at any depth. -/
theorem readable_of_isInteger {v : Json} (h : IsInteger v) (room : Nat) : Json.Readable room v := by
  cases h with
  | int n => exact .int n
  | flag b => exact .bool b

/-- All fields are read back, each from its own name. -/
theorem ofFields_toFields (c : Config) : ofFields c.toFields = c := by
  obtain ⟨codes, limit, divisions, capacity, host, theme, verbose, lexerDebug⟩ := c
  simp [ofFields, toFields, Json.field?, List.lookup_cons]

/-- Saving writes the file when its place can be written and no integer has too many digits. -/
theorem save_eq_ok_iff : c.save files path = .ok files' ↔ files.write path c.render = .ok files' ∧ (Json.obj c.toFields).fits = true := by
  unfold save
  rw [bind_eq_ok]
  constructor
  · rintro ⟨written, hwrite, h⟩
    split at h
    · rename_i hfits
      exact ⟨Except.ok.inj h ▸ hwrite, hfits⟩
    · cases h
  · rintro ⟨hwrite, hfits⟩
    exact ⟨files', hwrite, if_pos hfits⟩

/-! ## The environment -/

/-- The configuration with tokens traced if they were to be, or if everything is reported. -/
def tracingToo (c : Config) : Config := { c with lexerDebug := .bool (isTrue c.lexerDebug || isTrue c.verbose) }

/-- An environment that sets nothing makes tokens traced when everything is reported. -/
theorem override_none (hc : c.WellTyped) : override {} c = c.tracingToo := by
  obtain ⟨verbose, hverbose⟩ := hc.verbose
  obtain ⟨lexerDebug, hlexerDebug⟩ := hc.lexerDebug
  have hoverride : override {} c = { c with lexerDebug := if isTrue c.lexerDebug then c.lexerDebug else c.verbose } := rfl
  rw [hoverride, tracingToo, hverbose, hlexerDebug]
  cases lexerDebug <;> rfl

/-- Tracing comes along with reporting everything, and changes nothing where it is asked for already. -/
theorem tracingToo_eq_self_iff (hc : c.WellTyped) : c.tracingToo = c ↔ (c.verbose = .bool true → c.lexerDebug = .bool true) := by
  obtain ⟨verbose, hverbose⟩ := hc.verbose
  obtain ⟨lexerDebug, hlexerDebug⟩ := hc.lexerDebug
  obtain ⟨codes, limit, divisions, capacity, host, theme, _, _⟩ := c
  obtain rfl : _ = Json.bool verbose := hverbose
  obtain rfl : _ = Json.bool lexerDebug := hlexerDebug
  simp only [tracingToo, mk.injEq, true_and, isTrue, Json.bool.injEq]
  cases verbose <;> cases lexerDebug <;> simp

/-! ## Saved and loaded -/

/-- A file with a plain name can be written where there is nothing yet. -/
theorem exists_write (text : String) : ∃ files', Files.write [] "viewer.json" text = .ok files' := by
  have hnames : Files.namesOf "viewer.json" = .ok ["viewer.json"] := by decide +kernel
  have hslash : "viewer.json".endsWith "/" = false := by decide +kernel
  have hfollow : ["viewer.json"].foldlM (Files.follow []) (Files.startOf "viewer.json") = .ok ["viewer.json"] := by decide +kernel
  refine ⟨[(["viewer.json"], .file text.toUTF8.toList)], ?_⟩
  unfold Files.write
  rw [hnames, ok_bind, hslash, if_neg Bool.false_ne_true, hfollow]
  rfl

section Room

variable [Json.Room]

/-- What a well-typed configuration is written as can be read back. -/
theorem WellTyped.readable (h : c.WellTyped) : Json.Readable Json.maxDepth (.obj c.toFields) := by
  obtain ⟨codes, hcodes⟩ := h.codes
  obtain ⟨host, hhost⟩ := h.host
  obtain ⟨theme, htheme⟩ := h.theme
  obtain ⟨verbose, hverbose⟩ := h.verbose
  obtain ⟨lexerDebug, hlexerDebug⟩ := h.lexerDebug
  refine .ample (.obj (by simp [toFields]) ?_)
  intro p hp
  simp only [toFields, List.mem_cons, List.not_mem_nil, or_false] at hp
  rcases hp with rfl | rfl | rfl | rfl | rfl | rfl | rfl | rfl
  · rw [hcodes]
    refine .arr ?_
    intro v hv
    obtain ⟨code, -, rfl⟩ := List.mem_map.1 hv
    exact .str code
  · rcases h.limit with hlimit | hlimit
    · rw [hlimit]
      exact .null
    · exact readable_of_isInteger hlimit _
  · exact readable_of_isInteger h.divisions _
  · exact readable_of_isInteger h.capacity _
  · rw [hhost]
    exact .str host
  · rw [htheme]
    exact .str theme
  · rw [hverbose]
    exact .bool verbose
  · rw [hlexerDebug]
    exact .bool lexerDebug

/-- The file that a well-typed configuration was saved to holds its fields. -/
theorem holds_saved (hc : c.WellTyped) (hsave : c.save files path = .ok files') :
    ∃ text, files'.read path = .ok text ∧ Json.parse text = .ok (.obj c.toFields) := by
  obtain ⟨hwrite, hfits⟩ := save_eq_ok_iff.1 hsave
  have hreturn : '\r' ∉ c.render.toList := by
    rw [render, Json.indented, String.toList_ofList]
    exact Json.return_not_mem_write (by decide) (by decide) hc.readable 0
  have hparse := Json.parse_indented hc.readable
  rw [hfits] at hparse
  exact ⟨c.render, Files.read_written hwrite hreturn, hparse⟩

/-- A saved configuration is loaded as it was, and then the environment counts. -/
theorem load_saved (hc : c.WellTyped) (htheme : c.HasTheme) (hsave : c.save files path = .ok files') (e : Environment) :
    load e path (files'.read path) = .ok (override e c, []) := by
  obtain ⟨text, hread, hparse⟩ := holds_saved hc hsave
  rw [hread, load_of_object hparse, ofFields_toFields, settleTheme_of_hasTheme htheme]

/-- A configuration whose values have the types of its fields, and whose theme exists, can be saved where a file can be written, unless an
integer in it has too many digits. When the file is loaded in an environment that sets nothing, the configuration comes back in every field
but one: tokens are traced if they were to be, or if everything is reported. So it comes back as it was exactly if it does not have
everything reported without tokens being traced. -/
theorem saved_configuration_comes_back (hc : c.WellTyped) (htheme : c.HasTheme) (files : Files) (path : String) :
    ((∃ files', c.save files path = .ok files') ↔
        (∃ files', files.write path c.render = .ok files') ∧ (Json.obj c.toFields).fits = true) ∧
      (∀ files', c.save files path = .ok files' → load {} path (files'.read path) = .ok (c.tracingToo, [])) ∧
      (c.tracingToo = c ↔ (c.verbose = .bool true → c.lexerDebug = .bool true)) := by
  refine ⟨?_, fun files' hsave => ?_, tracingToo_eq_self_iff hc⟩
  · simp only [save_eq_ok_iff, exists_and_right]
  · rw [load_saved hc htheme hsave, override_none hc]

end Room

section Usual

attribute [local instance] Json.Room.usual

/-- A light theme, codes beyond ASCII and no greatest number of movements come back, and the flags as well. -/
theorem saved_configuration_comes_back_light :
    ∃ c files', c = { codes := .arr [.str "M30", .str "é"], limit := .null, theme := .str "light", lexerDebug := .bool true } ∧
      c.WellTyped ∧ c.HasTheme ∧ c.save [] "viewer.json" = .ok files' ∧ load {} "viewer.json" (files'.read "viewer.json") = .ok (c, []) := by
  have hc : WellTyped { codes := .arr [.str "M30", .str "é"], limit := .null, theme := .str "light", lexerDebug := .bool true } :=
    ⟨⟨["M30", "é"], rfl⟩, Or.inl rfl, .int _, .int _, ⟨_, rfl⟩, ⟨_, rfl⟩, ⟨_, rfl⟩, ⟨_, rfl⟩⟩
  obtain ⟨hsaved, hloaded, hback⟩ := saved_configuration_comes_back hc ⟨.light, rfl⟩ [] "viewer.json"
  obtain ⟨files', hsave⟩ := hsaved.2 ⟨exists_write _, by decide +kernel⟩
  have hload := hloaded files' hsave
  rw [hback.2 fun _ => rfl] at hload
  exact ⟨_, files', rfl, hc, ⟨.light, rfl⟩, hsave, hload⟩

/-- The usual configuration with everything reported does not come back: tokens are traced as well. -/
theorem verbose_configuration_changes :
    ∃ c files' c', c = { verbose := .bool true } ∧ c.WellTyped ∧ c.HasTheme ∧ c.save [] "viewer.json" = .ok files' ∧
      load {} "viewer.json" (files'.read "viewer.json") = .ok (c', []) ∧ c' ≠ c := by
  have hc : WellTyped { verbose := .bool true } :=
    ⟨⟨defaultCodes, rfl⟩, Or.inr (.int _), .int _, .int _, ⟨_, rfl⟩, ⟨_, rfl⟩, ⟨_, rfl⟩, ⟨_, rfl⟩⟩
  have htheme : HasTheme { verbose := .bool true } := ⟨.dark, rfl⟩
  obtain ⟨files', hwrite⟩ := exists_write (render { verbose := .bool true })
  have hsave : save { verbose := .bool true } [] "viewer.json" = .ok files' := save_eq_ok_iff.2 ⟨hwrite, by decide +kernel⟩
  refine ⟨_, files', _, rfl, hc, htheme, hsave, load_saved hc htheme hsave {}, ?_⟩
  rw [override_none hc]
  intro h
  have hflag := (tracingToo_eq_self_iff hc).1 h rfl
  cases hflag

end Usual

end ToolpathViewer.Config
