import Termite.Go.Map
import Termite.ClipEmbedder

namespace Termite

open Termite.Go

/-!
# The multimodal embedder registry (`MultimodalEmbedderRegistry`)

`NewMultimodalEmbedderRegistry` scans the models directory: every subdirectory holding both
`visual_model.onnx` and `text_model.onnx` loads a standard CLIP model under its own name, and
every one holding both `*_quantized.onnx` files loads a quantized model under its name with
`-i8-qt` appended.  A model whose `NewCLIPEmbedder` fails is skipped.  The registry is a Go
map, so a later registration under a name replaces an earlier one.

* `get_newMultimodalEmbedderRegistry` — `Get(name)` returns the model of the last registration
  under that name, in scan order, and fails with "multimodal model not found" when there is none.
* `newMultimodalEmbedderRegistry_keeps_iff` — every loaded model stays reachable under its
  name iff no directory is named after another's quantized model: a directory `d` with a
  quantized model and a directory `d-i8-qt` with a standard one both register `d-i8-qt`, and
  the second replaces the first.
* `newMultimodalEmbedderRegistry_clipLoads` — over the modelled `NewCLIPEmbedder`, a model is
  skipped only when the ONNX runtime fails to start or its `tokenizer.json` does not load, the
  same for both precisions: the scan's file checks already cover everything else it checks.
-/

/-- An entry of `os.ReadDir(modelsDir)`: its name, whether it is a directory, and the names
    `os.Stat` finds in it. -/
structure DirEntry where
  name : String
  isDir : Bool
  files : List String
  deriving DecidableEq, Repr

/-- What `os.Stat(modelsDir)` and `os.ReadDir(modelsDir)` report. -/
inductive ModelsDir
  | notExist
  | unreadable (err : String)
  | entries (es : List DirEntry)
  deriving DecidableEq, Repr

/-- The CLIP embedder `NewCLIPEmbedder(filepath.Join(modelsDir, dir), quantized, …)` loads. -/
structure CLIPModel where
  dir : String
  quantized : Bool
  deriving DecidableEq, Repr

/-- The registry's `models` map. -/
abbrev EmbedderRegistry := List (String × CLIPModel)

/-- `fileExists(filepath.Join(modelPath, file))` for an entry of the models directory. -/
def DirEntry.fileExists (e : DirEntry) (file : String) : Bool := e.files.contains file

/-- `hasStandard`: both standard model files are present. -/
def DirEntry.hasStandard (e : DirEntry) : Bool :=
  e.fileExists "visual_model.onnx" && e.fileExists "text_model.onnx"

/-- `hasQuantized`: both quantized model files are present. -/
def DirEntry.hasQuantized (e : DirEntry) : Bool :=
  e.fileExists "visual_model_quantized.onnx" && e.fileExists "text_model_quantized.onnx"

section Scan

/- `loads dir quantized`: whether `NewCLIPEmbedder` succeeds on a model directory at a precision;
it reads the config and the tokenizer and starts the ONNX runtime, which the model does not
spell out. -/
variable (loads : String → Bool → Bool)

/-- One round of the scan loop of `NewMultimodalEmbedderRegistry`. -/
def registerEntry (models : EmbedderRegistry) (entry : DirEntry) : EmbedderRegistry :=
  if !entry.isDir then models
  else if !entry.hasStandard && !entry.hasQuantized then models
  else
    let models := if entry.hasStandard && loads entry.name false then
      mapSet entry.name ⟨entry.name, false⟩ models else models
    if entry.hasQuantized && loads entry.name true then
      mapSet (entry.name ++ "-i8-qt") ⟨entry.name, true⟩ models else models

/-- `NewMultimodalEmbedderRegistry(modelsDir, logger)`. -/
def newMultimodalEmbedderRegistry (modelsDir : String) (dir : ModelsDir) : Except String EmbedderRegistry :=
  if modelsDir = "" then .ok []
  else match dir with
    | .notExist => .ok []
    | .unreadable err => .error ("reading models directory: " ++ err)
    | .entries es => .ok (es.foldl (registerEntry loads) [])

/-- The entry is a directory whose standard model is present and loads. -/
def DirEntry.standardLoaded (e : DirEntry) : Bool := e.isDir && e.hasStandard && loads e.name false

/-- The entry is a directory whose quantized model is present and loads. -/
def DirEntry.quantizedLoaded (e : DirEntry) : Bool := e.isDir && e.hasQuantized && loads e.name true

/-- The registrations an entry makes, in order: its standard model under its name, then its
    quantized model under the name with `-i8-qt`. -/
def registrations (e : DirEntry) : List (String × CLIPModel) :=
  (if e.standardLoaded loads then [(e.name, ⟨e.name, false⟩)] else []) ++
    (if e.quantizedLoaded loads then [(e.name ++ "-i8-qt", ⟨e.name, true⟩)] else [])

end Scan

/-- `(*MultimodalEmbedderRegistry).Get(modelName)`. -/
def EmbedderRegistry.get (models : EmbedderRegistry) (modelName : String) : Except String CLIPModel :=
  match models.lookup modelName with
  | some model => .ok model
  | none => .error ("multimodal model not found: " ++ modelName)

/-- `(*MultimodalEmbedderRegistry).List()`, in the map's order. -/
def EmbedderRegistry.list (models : EmbedderRegistry) : List String := models.map Prod.fst

/-! ### The scan as a run of map writes -/

section Scan

variable (loads : String → Bool → Bool)

/-- One round of the scan writes the entry's registrations in order. -/
theorem registerEntry_eq (models : EmbedderRegistry) (entry : DirEntry) :
    registerEntry loads models entry =
      (registrations loads entry).foldl (fun m p => mapSet p.1 p.2 m) models := by
  unfold registerEntry registrations DirEntry.standardLoaded DirEntry.quantizedLoaded
  cases entry.isDir <;> cases entry.hasStandard <;> cases entry.hasQuantized <;>
    cases loads entry.name false <;> cases loads entry.name true <;> rfl

/-- The scan writes every entry's registrations, entry after entry. -/
theorem foldl_registerEntry (es : List DirEntry) (models : EmbedderRegistry) :
    es.foldl (registerEntry loads) models =
      (es.flatMap (registrations loads)).foldl (fun m p => mapSet p.1 p.2 m) models := by
  induction es generalizing models with
  | nil => rfl
  | cons e es ih => rw [List.foldl_cons, ih, registerEntry_eq, List.flatMap_cons, List.foldl_append]

/-- **`Get` after the scan.**  A name gets the model of its last registration in scan order. -/
theorem get_newMultimodalEmbedderRegistry {modelsDir : String} (hdir : modelsDir ≠ "") (es : List DirEntry)
    (name : String) :
    ∃ models, newMultimodalEmbedderRegistry loads modelsDir (.entries es) = .ok models ∧
      models.get name =
        match ((es.flatMap (registrations loads)).reverse.find? fun p => p.1 == name) with
        | some p => .ok p.2
        | none => .error ("multimodal model not found: " ++ name) := by
  refine ⟨es.foldl (registerEntry loads) [], by simp [newMultimodalEmbedderRegistry, hdir], ?_⟩
  rw [EmbedderRegistry.get, foldl_registerEntry, lookup_foldl_mapSet]
  cases (es.flatMap (registrations loads)).reverse.find? fun p => p.1 == name <;> rfl

theorem mem_registrations {e : DirEntry} {p : String × CLIPModel} :
    p ∈ registrations loads e ↔
      e.standardLoaded loads = true ∧ p = (e.name, ⟨e.name, false⟩) ∨
        e.quantizedLoaded loads = true ∧ p = (e.name ++ "-i8-qt", ⟨e.name, true⟩) := by
  unfold registrations
  split_ifs <;> simp_all

theorem EmbedderRegistry.get_eq_ok_iff {models : EmbedderRegistry} {name : String} {m : CLIPModel} :
    models.get name = .ok m ↔ models.lookup name = some m := by
  unfold EmbedderRegistry.get
  cases models.lookup name <;> simp

/-- Two registrations of one name with different models come from a directory `d` with a
    standard model and a directory `e` with a quantized one, `d`'s name being `e`'s with `-i8-qt`. -/
theorem registrations_collision {a b : DirEntry} {p q : String × CLIPModel}
    (hp : p ∈ registrations loads a) (hq : q ∈ registrations loads b) (hkey : p.1 = q.1) (hne : p.2 ≠ q.2) :
    ∃ d ∈ [a, b], ∃ e ∈ [a, b], d.name = e.name ++ "-i8-qt" ∧
      d.standardLoaded loads = true ∧ e.quantizedLoaded loads = true := by
  rcases (mem_registrations loads).mp hp with ⟨ha, rfl⟩ | ⟨ha, rfl⟩ <;>
    rcases (mem_registrations loads).mp hq with ⟨hb, rfl⟩ | ⟨hb, rfl⟩ <;>
    simp only at hkey hne
  · exact absurd (by rw [hkey]) hne
  · exact ⟨a, by simp, b, by simp, hkey, ha, hb⟩
  · exact ⟨b, by simp, a, by simp, hkey.symm, hb, ha⟩
  · -- both quantized: the names agree once the suffix is dropped
    have : a.name = b.name := by
      have := congrArg String.data hkey
      exact String.ext (by simpa only [String.data_append, List.append_cancel_right_eq] using this)
    exact absurd (by rw [this]) hne

/-- `Get` finds every loaded model of `es` iff every registration of the scan reads back. -/
theorem get_loaded_iff (models : EmbedderRegistry) (es : List DirEntry) :
    (∀ e ∈ es, (e.standardLoaded loads = true → models.get e.name = .ok ⟨e.name, false⟩) ∧
        (e.quantizedLoaded loads = true → models.get (e.name ++ "-i8-qt") = .ok ⟨e.name, true⟩)) ↔
      ∀ p ∈ es.flatMap (registrations loads), models.lookup p.1 = some p.2 := by
  simp only [EmbedderRegistry.get_eq_ok_iff, List.mem_flatMap, mem_registrations]
  constructor
  · rintro h p ⟨e, he, ⟨hs, rfl⟩ | ⟨hq, rfl⟩⟩
    exacts [(h e he).1 hs, (h e he).2 hq]
  · exact fun h e he => ⟨fun hs => h _ ⟨e, he, .inl ⟨hs, rfl⟩⟩, fun hq => h _ ⟨e, he, .inr ⟨hq, rfl⟩⟩⟩

/-- **No loaded model is shadowed** iff no directory is named after another's quantized model.
    The scan registers `d`'s standard model under `d` and `e`'s quantized model under `e-i8-qt`;
    when `d = e-i8-qt`, whichever comes later replaces the other. -/
theorem newMultimodalEmbedderRegistry_keeps_iff {modelsDir : String} (hdir : modelsDir ≠ "")
    (es : List DirEntry) :
    ∃ models, newMultimodalEmbedderRegistry loads modelsDir (.entries es) = .ok models ∧
      ((∀ e ∈ es, (e.standardLoaded loads = true → models.get e.name = .ok ⟨e.name, false⟩) ∧
          (e.quantizedLoaded loads = true → models.get (e.name ++ "-i8-qt") = .ok ⟨e.name, true⟩)) ↔
        ¬ ∃ d ∈ es, ∃ e ∈ es, d.name = e.name ++ "-i8-qt" ∧
          d.standardLoaded loads = true ∧ e.quantizedLoaded loads = true) := by
  refine ⟨es.foldl (registerEntry loads) [], by simp [newMultimodalEmbedderRegistry, hdir], ?_⟩
  rw [foldl_registerEntry]
  rw [get_loaded_iff, foldl_mapSet_keeps_iff]
  constructor
  · rintro h ⟨d, hd, e, he, hname, hs, hq⟩
    have := h (d.name, ⟨d.name, false⟩) (List.mem_flatMap.mpr ⟨d, hd, (mem_registrations loads).mpr (.inl ⟨hs, rfl⟩)⟩)
      (e.name ++ "-i8-qt", ⟨e.name, true⟩)
      (List.mem_flatMap.mpr ⟨e, he, (mem_registrations loads).mpr (.inr ⟨hq, rfl⟩)⟩) hname
    simp at this
  · intro hno p hp q hq hkey
    by_contra hne
    obtain ⟨a, ha, hpa⟩ := List.mem_flatMap.mp hp
    obtain ⟨b, hb, hqb⟩ := List.mem_flatMap.mp hq
    obtain ⟨d, hd, e, he, hcol⟩ := registrations_collision loads hpa hqb hkey hne
    have hsub : ∀ x ∈ [a, b], x ∈ es := by simp [ha, hb]
    exact hno ⟨d, hsub d hd, e, hsub e he, hcol⟩

end Scan

/-! ### The registry over `NewCLIPEmbedder` -/

section Loader

variable (modelsDir : String) (initErr : Option String) (contents : String → ModelDirContents)

/-- `NewCLIPEmbedder` as the scan calls it, on `filepath.Join(modelsDir, name)`: whether it
    succeeds, given what each model directory holds and the error `initONNXRuntime` returns. -/
def clipLoads (name : String) (quantized : Bool) : Bool :=
  (newCLIPEmbedder (joinPath modelsDir name) quantized initErr (contents name)).isOk

/-- What decides a load once the scan has found the model files: the runtime and the tokenizer. -/
def tokenizerLoads (name : String) (_quantized : Bool) : Bool :=
  initErr.isNone && (contents name).tokenizerJSON.load.isOk

theorem joinPath_ne_empty (dir file : String) : joinPath dir file ≠ "" := by
  intro h
  have := congrArg String.data h
  simp [joinPath] at this

/-- The scan only calls `NewCLIPEmbedder` at a precision whose two files it has found, and
    there the call agrees with `tokenizerLoads`. -/
theorem clipLoads_of_found {e : DirEntry} (hfiles : (contents e.name).files = e.files) :
    (e.hasStandard && clipLoads modelsDir initErr contents e.name false) =
        (e.hasStandard && tokenizerLoads initErr contents e.name false) ∧
      (e.hasQuantized && clipLoads modelsDir initErr contents e.name true) =
        (e.hasQuantized && tokenizerLoads initErr contents e.name true) := by
  unfold DirEntry.hasStandard DirEntry.hasQuantized DirEntry.fileExists clipLoads tokenizerLoads
  constructor <;> cases hv : e.files.contains _ <;> cases ht : e.files.contains _ <;>
    simp only [Bool.false_and, Bool.true_and, Bool.and_false]
  all_goals
    exact newCLIPEmbedder_isOk initErr (joinPath_ne_empty _ _) (by simpa [hfiles] using hv)
      (by simpa [hfiles] using ht)

theorem registerEntry_clipLoads {e : DirEntry} (hfiles : (contents e.name).files = e.files)
    (models : EmbedderRegistry) :
    registerEntry (clipLoads modelsDir initErr contents) models e =
      registerEntry (tokenizerLoads initErr contents) models e := by
  obtain ⟨hs, hq⟩ := clipLoads_of_found modelsDir initErr contents hfiles
  simp only [registerEntry, hs, hq]

/-- **The precision never decides a load.**  Over the modelled `NewCLIPEmbedder`, the scan
    builds the registry whose loader only asks whether the ONNX runtime started and the
    directory's `tokenizer.json` loads: once the scan has found a precision's two model files,
    no missing file, config file or projection makes `NewCLIPEmbedder` fail, so a directory
    with both precisions registers both models or neither. -/
theorem newMultimodalEmbedderRegistry_clipLoads (es : List DirEntry)
    (hfiles : ∀ e ∈ es, (contents e.name).files = e.files) :
    newMultimodalEmbedderRegistry (clipLoads modelsDir initErr contents) modelsDir (.entries es) =
      newMultimodalEmbedderRegistry (tokenizerLoads initErr contents) modelsDir (.entries es) := by
  simp only [newMultimodalEmbedderRegistry,
    List.foldl_ext _ _ [] fun models e he => registerEntry_clipLoads modelsDir initErr contents (hfiles e he) models]

/-- The sample directory, where the scan and `NewCLIPEmbedder` find the same files. -/
theorem newMultimodalEmbedderRegistry_clipLoads_bothPrecisions :
    (∀ e ∈ [(⟨"clip", true, bothPrecisionsDir.files⟩ : DirEntry)], bothPrecisionsDir.files = e.files) ∧
      newMultimodalEmbedderRegistry (clipLoads "models" none fun _ => bothPrecisionsDir) "models"
          (.entries [⟨"clip", true, bothPrecisionsDir.files⟩]) =
        newMultimodalEmbedderRegistry (tokenizerLoads none fun _ => bothPrecisionsDir) "models"
          (.entries [⟨"clip", true, bothPrecisionsDir.files⟩]) :=
  have hfiles : ∀ e ∈ [(⟨"clip", true, bothPrecisionsDir.files⟩ : DirEntry)],
      bothPrecisionsDir.files = e.files := by simp
  ⟨hfiles, newMultimodalEmbedderRegistry_clipLoads "models" none (fun _ => bothPrecisionsDir) _ hfiles⟩

/-- With a `tokenizer.json` that does not parse, neither precision registers. -/
example : newMultimodalEmbedderRegistry
    (clipLoads "models" none fun _ => { bothPrecisionsDir with tokenizerJSON := .malformed "EOF" }) "models"
    (.entries [⟨"clip", true, bothPrecisionsDir.files⟩]) = .ok [] := rfl

end Loader

/-- A directory `clip` with both precisions beside a directory `clip-i8-qt` with a standard model. -/
def shadowingModels : List DirEntry :=
  [⟨"clip", true, ["visual_model.onnx", "text_model.onnx", "visual_model_quantized.onnx",
      "text_model_quantized.onnx"]⟩,
    ⟨"clip-i8-qt", true, ["visual_model.onnx", "text_model.onnx"]⟩]

/-- With every model loading, the quantized `clip` is lost to the directory `clip-i8-qt`. -/
theorem shadowingModels_lose_quantized :
    "models" ≠ "" ∧ ∃ models,
      newMultimodalEmbedderRegistry (fun _ _ => true) "models" (.entries shadowingModels) = .ok models ∧
        ¬ ∀ e ∈ shadowingModels,
          (e.standardLoaded (fun _ _ => true) = true → models.get e.name = .ok ⟨e.name, false⟩) ∧
          (e.quantizedLoaded (fun _ _ => true) = true →
            models.get (e.name ++ "-i8-qt") = .ok ⟨e.name, true⟩) :=
  have ⟨models, hscan, hkeeps⟩ := newMultimodalEmbedderRegistry_keeps_iff (fun _ _ => true) (by decide) shadowingModels
  ⟨by decide, models, hscan, fun hall => hkeeps.mp hall ⟨_, .tail _ (.head _), _, .head _, by decide, rfl, rfl⟩⟩

/-- There, `Get("clip-i8-qt")` returns the standard model of the directory `clip-i8-qt`. -/
theorem get_newMultimodalEmbedderRegistry_shadowingModels :
    "models" ≠ "" ∧ ∃ models,
      newMultimodalEmbedderRegistry (fun _ _ => true) "models" (.entries shadowingModels) = .ok models ∧
        models.get "clip-i8-qt" = .ok ⟨"clip-i8-qt", false⟩ :=
  have ⟨models, hscan, hget⟩ :=
    get_newMultimodalEmbedderRegistry (fun _ _ => true) (by decide) shadowingModels "clip-i8-qt"
  ⟨by decide, models, hscan, hget.trans rfl⟩

end Termite
