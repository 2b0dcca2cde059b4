import TwoStep.Proofs.Directory
import TwoStep.Proofs.Settings.Decode
import TwoStep.Proofs.Settings.Names
import TwoStep.Proofs.Toml.Documents
import TwoStep.Proofs.Toml.Strings
import TwoStep.Settings.Load

/-!
# Saved settings are loaded again

Settings pass through five forms on their way into a file and back.

* `toList_toToml`: the saved text is a document of five blocks, whose fields are
  read back one by one.
* `layer?_toToml`: so the file makes a layer that holds every setting
  (`savedLayer`), whatever its texts are.
* `decode_overlay_savedLayer`: the names of sections and fields are their own lower
  case and are no paths, so that layer replaces every setting below it, and what is
  on top is decoded.
* `Directory.Slot`: after saving, the path leads to the saved text.
* `WellFormed.getLast?_relative`: its extension is still that of the path, so the
  text is taken as TOML.

`saved_settings_load_back` puts them together.
-/

namespace TwoStep

/-! ## The saved text -/

namespace Toml

theorem scalarPart_quoted (t : String) (rest : List Char) :
    scalarPart ((quoted t).toList ++ '\n' :: rest) = some (.string t, '\n' :: rest) := by
  have hread : stringPart ((quoted t).toList ++ '\n' :: rest) = some (t, '\n' :: rest) :=
    stringPart_quoted t (by simp) (by simp)
  cases htext : (quoted t).toList ++ '\n' :: rest with
  | nil => simp at htext
  | cons c cs =>
      rw [htext] at hread
      have hquote : c = '"' ∨ c = '\'' := by
        by_contra hne
        simp_all [stringPart]
      simp [scalarPart, hquote, hread]

/-- A field that sets a text. -/
def Field.ofText (key t : String) (plain : isKey key = true) : Field where
  key := key
  text := quoted t
  value := .string t
  plain := plain
  reads := scalarPart_quoted t

/-- A field that sets a truth value. -/
def Field.ofBool (key : String) (b : Bool) (plain : isKey key = true) : Field where
  key := key
  text := toString b
  value := .boolean b
  plain := plain
  reads rest := by cases b <;> rfl

end Toml

namespace Settings

open Toml (Block Field)

/-- The blocks of a saved file. -/
def blocks (s : Settings) : List Block := [
  ⟨"network", [.ofText "rpc_url" s.rpcUrl (by decide)], by decide, by simp⟩,
  ⟨"contract", [.ofText "address" s.contractAddress (by decide)], by decide, by simp⟩,
  ⟨"accounts", [.ofText "current_owner_key_env" s.currentOwnerKeyVar (by decide),
    .ofText "new_owner_key_env" s.newOwnerKeyVar (by decide)], by decide, by simp [Field.ofText]⟩,
  ⟨"fees", [.ofText "priority_fee" s.priorityFee (by decide)], by decide, by simp⟩,
  ⟨"observability", [.ofText "log_level" s.logLevel (by decide),
    .ofBool "json_logs" s.jsonLogs (by decide)], by decide, by simp [Field.ofText, Field.ofBool]⟩]

theorem toList_textLine (key t : String) : (textLine key t).toList =
    key.toList ++ ' ' :: '=' :: ' ' :: ((Toml.quoted t).toList ++ ['\n']) := by
  change (key ++ " = " ++ Toml.quoted t ++ "\n").toList = _
  simp

theorem toList_toToml (s : Settings) : s.toToml.toList = Toml.document s.blocks := by
  have hbool : toString "json_logs = " ++ toString s.jsonLogs ++ toString "\n" =
      "json_logs = " ++ toString s.jsonLogs ++ "\n" := rfl
  rw [toToml, hbool]
  simp [toList_textLine, Toml.document, blocks, Block.lines, Field.line, Field.ofText,
    Field.ofBool]

/-! ## The layer of a saved file -/

/-- Every setting, as read at `origin`. -/
def savedLayer (s : Settings) (origin : Option String) : Value.Layer :=
  let text (t : String) : Value := .scalar (.text t) origin
  [("network", .table [("rpc_url", text s.rpcUrl)] origin),
   ("contract", .table [("address", text s.contractAddress)] origin),
   ("accounts", .table [("current_owner_key_env", text s.currentOwnerKeyVar),
     ("new_owner_key_env", text s.newOwnerKeyVar)] origin),
   ("fees", .table [("priority_fee", text s.priorityFee)] origin),
   ("observability", .table [("log_level", text s.logLevel),
     ("json_logs", .scalar (.bool s.jsonLogs) origin)] origin)]

theorem layer?_toToml (s : Settings) (origin : String) :
    Format.toml.layer? origin s.toToml = some (s.savedLayer (some origin)) := by
  have htext : s.toToml = String.ofList (Toml.document s.blocks) := by
    rw [← toList_toToml, String.ofList_toList]
  have hmark : withoutMark s.toToml = s.toToml := by
    rw [withoutMark, toList_toToml]
    rfl
  have hnames : (s.blocks.map Block.name).Nodup := by
    simp [blocks]
  have hparse := Toml.parse_document hnames
  rw [← htext] at hparse
  simp only [Format.layer?, Format.toml, hmark, hparse]
  rfl

/-- A layer with every setting replaces the settings below it. -/
theorem decode_overlay_savedLayer (below s : Settings) (origin : Option String)
    (visits : Visits) : decode visits ((encode below).overlay (s.savedLayer origin)) = .ok s := by
  rw [decode_eq_ok_iff]
  simp (disch := decide) only [savedLayer, encode, Value.overlay, List.foldl_cons, List.foldl_nil,
    Path.ofText_of_isName, Text.lowered_of_isName, Value.assign, Value.assignBelow,
    Value.put, Value.merged, Value.mergedEntries]
  -- Only fixed keys are compared from here on.
  rfl

/-! ## Saving and loading -/

theorem ofPath?_of_extension {parts : List String}
    (h : parts.getLast?.bind extension? = some "toml") :
    Formats.standard.ofPath? parts = some .toml := by
  rw [Formats.ofPath?, h]
  rfl

/-- A file that holds saved settings is loaded as these settings. -/
theorem load_of_find {d : Directory} {path : String} {p : List String} (s : Settings)
    (hfind : d.find path = .file p s.toToml)
    (hext : (d.relative path).getLast?.bind extension? = some "toml") (visits : Visits) :
    Loader.load { visits } d (some path) [] = .ok s := by
  have hexists : d.exists? path = true := by
    rw [Directory.exists?, hfind]
  obtain ⟨origin, hlayer⟩ :
      ∃ origin, layerOfFile? .standard d path = some (s.savedLayer origin) := by
    simp only [layerOfFile?, hfind, ofPath?_of_extension hext, Option.bind_some, layer?_toToml]
    exact ⟨_, rfl⟩
  have hfile : fileLayer .standard d (some path) = .ok (s.savedLayer origin) := by
    simp only [fileLayer, hexists, hlayer, if_true]
  have hvariables (root : Value) : root.overlay (layerOfVariables []) = root := rfl
  rw [Loader.load, bind_eq_ok_iff]
  refine ⟨s.savedLayer origin, hfile, ?_⟩
  rw [hvariables, mapError_eq_ok_iff]
  exact decode_overlay_savedLayer {} s origin visits

/-- Settings can be saved at every path that takes a file, and nowhere else; and if
the extension is `toml`, the saved settings are what is loaded from there when no
variables are set, whatever stands in their texts.  The working folder stays a
folder, so this can be said again of what comes next. -/
theorem saved_settings_load_back (s : Settings) {d : Directory} (hd : d.WellFormed) {path : String}
    (hext : (Directory.parts path).getLast?.bind extension? = some "toml") :
    ((∃ d', s.save d path = .ok d') ↔ d.takesFile path = true) ∧
      ∀ d', s.save d path = .ok d' → d'.WellFormed ∧
        ∀ visits, Loader.load { visits } d' (some path) [] = .ok s := by
  refine ⟨Directory.write_ok_iff, fun d' hsave => ?_⟩
  obtain ⟨p, hslot⟩ := Directory.slot_of_takesFile (Directory.write_ok_iff.mp ⟨d', hsave⟩)
  have hd' : d' = d.withFile p s.toToml := by
    rw [save, hslot.writes] at hsave
    exact (Except.ok.inj hsave).symm
  subst hd'
  refine ⟨hd.withFile hslot.leads.entry s.toToml, load_of_find s (hslot.finds s.toToml) ?_⟩
  change (d.relative path).getLast?.bind extension? = some "toml"
  rw [hd.getLast?_relative hslot, hext]

/-- Texts that need each of the four styles, with and without escapes. -/
def awkward : Settings where
  rpcUrl := "C:\\new \"quotes\""
  contractAddress := "it's a \"quote\""
  currentOwnerKeyVar := "\n''\"\"\"\\'"
  newOwnerKeyVar := "'''\"\"\"\r\n\x00\x7f\"\""
  priorityFee := ""
  logLevel := "\x1b'\\"
  jsonLogs := false

/-- A working folder with a settings file in it. -/
def workFolder : Directory := .ofFiles "/srv/work" [("old.toml", "[fees]\npriority_fee = 3\n")]

theorem awkward_settings_load_back :
    workFolder.WellFormed ∧ workFolder.takesFile "/srv/./work/old.toml" = true ∧
    (Directory.parts "/srv/./work/old.toml").getLast?.bind extension? = some "toml" ∧
    ∃ d, awkward.save workFolder "/srv/./work/old.toml" = .ok d ∧
      Loader.load {} d (some "/srv/./work/old.toml") [] = .ok awkward := by
  have hd : workFolder.WellFormed := Directory.wellFormed_ofFiles (by decide) (by decide)
  have hext : (Directory.parts "/srv/./work/old.toml").getLast?.bind extension? = some "toml" := by
    decide
  have htakes : workFolder.takesFile "/srv/./work/old.toml" = true := by
    decide +kernel
  obtain ⟨hsave, hload⟩ := saved_settings_load_back awkward hd hext
  obtain ⟨d, hd'⟩ := hsave.mpr htakes
  exact ⟨hd, htakes, hext, d, hd', (hload d hd').2 {}⟩

end Settings

end TwoStep
