import Termite.Go.Map
import Termite.Go.Strings

namespace Termite.Hugot

open Termite.Go

/-!
# Pulling an ONNX model from the Hugging Face Hub (`PullFromHuggingFace`)

`selectONNXFiles` picks, from the repository's listing, the first file named after each of
five tokenizer and config files, then every file whose base name is the variant's model
(`model.onnx`, `model_fp16.onnx`, …) or its external data.  `PullFromHuggingFace` creates the
model directory and copies each pick to `modelDir/filepath.Base(fileName)`, flattening the
repository's directories.  The model directory is a map from file names to the repository file
whose bytes each holds.  What the hub and the file system answer — the listing, `MkdirAll`, each
download and each of `copyFile`'s calls — is the pull's input `PullCalls`.

* `lookup_foldl_copyToModelDir` — after the download loop, a name holds the last pick of that
  base name.
* `foldl_copyToModelDir_keeps_iff` — every pick survives the loop iff no two different picks
  share a base name.
* `selectONNXFiles_collision_iff` — two different picks share a base name iff two different
  files of the listing do and one of them is the variant's model or data file: tokenizer picks
  never collide, but every matching ONNX file is picked.
* `foldlM_downloadAndCopy_eq_ok` / `foldlM_downloadAndCopy_eq_error` — the loop succeeds iff
  every pick is downloaded and copied, and otherwise stops at the first pick that is not.
* `pullFromHuggingFace_loses_iff` — hence a successful pull silently replaces a downloaded file
  exactly when the listing holds the variant's model file, or its data file, in two directories.
* `pullFromHuggingFace_eq_error_iff` — the pull's errors: the listing's, "no ONNX files found"
  exactly when the listing has neither a tokenizer file nor a model file of the variant, the
  directory's, or that of the first pick whose download or copy fails.
-/
/-- The tokenizer and config files `selectONNXFiles` always looks for. -/
def tokenizerFiles : List String :=
  ["tokenizer.json", "tokenizer.model", "tokenizer_config.json", "config.json", "special_tokens_map.json"]

/-- The ONNX file pattern of a variant. -/
def onnxBase (variant : String) : String :=
  match variant with
  | "fp16" => "model_fp16"
  | "q4" => "model_q4"
  | "q4f16" => "model_q4f16"
  | "quantized" => "model_quantized"
  | _ => "model"

/-- The test of the ONNX loop: the exact model file or its data file. -/
def isONNXFile (onnxBase f : String) : Bool :=
  Filepath.base f == onnxBase ++ ".onnx" || Filepath.base f == onnxBase ++ ".onnx_data"

/-- `selectONNXFiles(files, variant)`. -/
def selectONNXFiles (files : List String) (variant : String) : List String :=
  tokenizerFiles.filterMap (fun tf => files.find? fun f => Filepath.base f == tf) ++
    files.filter (isONNXFile (onnxBase variant))

/-- The directory after `fileName`'s copy: `modelDir/filepath.Base(fileName)` holds it. -/
def copyToModelDir (modelDir : List (String × String)) (fileName : String) : List (String × String) :=
  mapSet (Filepath.base fileName) fileName modelDir

/-- The errors of `copyFile(src, dst)`'s calls: `os.Open(src)`, `os.Create(dst)`, `io.Copy`
    and the destination's `Close`. -/
structure CopyCalls where
  openSrc : Option String
  createDst : Option String
  copy : Option String
  closeDst : Option String

/-- `copyFile(src, dst)`'s error; the source's deferred `Close` is not checked, nor the
    destination's after a failed copy. -/
def copyFile (c : CopyCalls) : Option String :=
  match c.openSrc, c.createDst, c.copy with
  | some err, _, _ => some ("opening source: " ++ err)
  | none, some err, _ => some ("creating destination: " ++ err)
  | none, none, some err => some ("copying: " ++ err)
  | none, none, none => c.closeDst

/-- What the hub and the file system answer a pull: the listing `repo.IterFileNames()` yields up
    to its first error, the error of `os.MkdirAll(modelDir, 0755)`, and per repository file the
    error of `repo.DownloadFile` and the calls `copyFile` makes from the cached download. -/
structure PullCalls where
  iterFileNames : Except String (List String)
  mkdirAll : Option String
  downloadFile : String → Option String
  copyCalls : String → CopyCalls

/-- A hub that lists `files` and serves each of them, on a file system where every call
    succeeds. -/
def PullCalls.ofListing (files : List String) : PullCalls :=
  ⟨.ok files, none, fun _ => none, fun _ => ⟨none, none, none, none⟩⟩

/-- One round of the download loop: `repo.DownloadFile(fileName)`, then `copyFile` to
    `modelDir/filepath.Base(fileName)`. -/
def downloadAndCopy (calls : PullCalls) (modelDir : List (String × String)) (fileName : String) :
    Except String (List (String × String)) :=
  match calls.downloadFile fileName with
  | some err => .error ("downloading " ++ fileName ++ ": " ++ err)
  | none =>
    match copyFile (calls.copyCalls fileName) with
    | some err => .error ("copying " ++ fileName ++ ": " ++ err)
    | none => .ok (copyToModelDir modelDir fileName)

/-- `(*HuggingFaceClient).PullFromHuggingFace(ctx, repoID, modelType, destDir, variant)`, the
    hub and the file system answering `calls`, with `modelDir` the directory before the pull.
    A failed pull is its error: what it leaves in the directory is not modelled. -/
def pullFromHuggingFace (calls : PullCalls) (repoID variant : String)
    (modelDir : List (String × String)) : Except String (List (String × String)) :=
  match calls.iterFileNames with
  | .error err => .error ("listing files: " ++ err)
  | .ok files =>
    let toDownload := selectONNXFiles files variant
    if toDownload.length = 0 then .error ("no ONNX files found in " ++ repoID)
    else match calls.mkdirAll with
      | some err => .error ("creating directory: " ++ err)
      | none => toDownload.foldlM (downloadAndCopy calls) modelDir

/-! ### The download loop -/

/-- After the loop, a name holds the last file of that base name, or what it held before. -/
theorem lookup_foldl_copyToModelDir (l : List String) (modelDir : List (String × String)) (n : String) :
    (l.foldl copyToModelDir modelDir).lookup n =
      (l.reverse.find? fun f => Filepath.base f == n).or (modelDir.lookup n) := by
  induction l generalizing modelDir with
  | nil => rfl
  | cons f l ih =>
    rw [List.foldl_cons, ih, copyToModelDir, lookup_mapSet, List.reverse_cons, List.find?_append,
      Option.or_assoc, List.find?_singleton]
    by_cases h : n = Filepath.base f
    · simp [h]
    · simp [h, Ne.symm h]

/-- **Every file survives the loop** iff no two different files share a base name. -/
theorem foldl_copyToModelDir_keeps_iff (l : List String) (modelDir : List (String × String)) :
    (∀ f ∈ l, (l.foldl copyToModelDir modelDir).lookup (Filepath.base f) = some f) ↔
      ∀ f ∈ l, ∀ g ∈ l, Filepath.base f = Filepath.base g → f = g := by
  constructor
  · intro h f hf g hg hfg
    have := h g hg
    rwa [← hfg, h f hf, Option.some.injEq] at this
  · intro h f hf
    rw [lookup_foldl_copyToModelDir]
    -- the last file of `f`'s base name is `f` itself
    obtain ⟨g, hg⟩ : ∃ g, (l.reverse.find? fun g => Filepath.base g == Filepath.base f) = some g := by
      refine Option.isSome_iff_exists.mp ?_
      rw [List.find?_isSome]
      exact ⟨f, List.mem_reverse.mpr hf, by simp⟩
    have hbase : Filepath.base g = Filepath.base f := by simpa using List.find?_some hg
    rw [hg, h g (List.mem_reverse.mp (List.mem_of_find?_eq_some hg)) f hf hbase]
    rfl

/-- The round of `fileName` succeeds: its download and its copy return no error. -/
def PullCalls.Fetches (calls : PullCalls) (fileName : String) : Prop :=
  calls.downloadFile fileName = none ∧ copyFile (calls.copyCalls fileName) = none

/-- The round of `fileName` fails with `e`: the download's error, or the copy's after a
    successful download, each prefixed with the file's name. -/
def PullCalls.Fails (calls : PullCalls) (fileName e : String) : Prop :=
  (∃ err, calls.downloadFile fileName = some err ∧ e = "downloading " ++ fileName ++ ": " ++ err) ∨
    calls.downloadFile fileName = none ∧
      ∃ err, copyFile (calls.copyCalls fileName) = some err ∧ e = "copying " ++ fileName ++ ": " ++ err

theorem downloadAndCopy_eq_ok {calls : PullCalls} {modelDir dir : List (String × String)} {f : String} :
    downloadAndCopy calls modelDir f = .ok dir ↔ calls.Fetches f ∧ dir = copyToModelDir modelDir f := by
  cases hd : calls.downloadFile f <;> cases hc : copyFile (calls.copyCalls f) <;>
    simp [downloadAndCopy, PullCalls.Fetches, hd, hc, eq_comm]

/-- A round's error does not depend on the directory. -/
theorem downloadAndCopy_eq_error {calls : PullCalls} {modelDir : List (String × String)} {f e : String} :
    downloadAndCopy calls modelDir f = .error e ↔ calls.Fails f e := by
  cases hd : calls.downloadFile f <;> cases hc : copyFile (calls.copyCalls f) <;>
    simp [downloadAndCopy, PullCalls.Fails, hd, hc, eq_comm]

/-- A round that fails does not fetch. -/
theorem PullCalls.not_fetches_of_fails {calls : PullCalls} {f e : String} (h : calls.Fails f e) :
    ¬ calls.Fetches f := by
  rintro ⟨hd, hc⟩
  rcases h with ⟨_, hd', -⟩ | ⟨-, _, hc', -⟩ <;> simp_all

/-- **The loop succeeds** iff every file is downloaded and copied, into the directory of the
    copies alone. -/
theorem foldlM_downloadAndCopy_eq_ok (calls : PullCalls) (l : List String) (modelDir dir : List (String × String)) :
    l.foldlM (downloadAndCopy calls) modelDir = .ok dir ↔
      (∀ f ∈ l, calls.Fetches f) ∧ dir = l.foldl copyToModelDir modelDir := by
  induction l generalizing modelDir with
  | nil => simp [pure, Except.pure, eq_comm]
  | cons f l ih =>
    rw [List.foldlM_cons, List.forall_mem_cons]
    cases h : downloadAndCopy calls modelDir f with
    | error e =>
      have hf := PullCalls.not_fetches_of_fails (downloadAndCopy_eq_error.mp h)
      simp only [bind, Except.bind, reduceCtorEq, false_iff]
      exact fun h => hf h.1.1
    | ok mid =>
      obtain ⟨hf, rfl⟩ := downloadAndCopy_eq_ok.mp h
      simp only [bind, Except.bind, ih, List.foldl_cons, and_assoc, true_and, hf]

/-- A first element of `f :: l` with `q`, every element before it with `p`, is `f` or lies in
    `l`. -/
theorem exists_first_cons_iff {p q : String → Prop} {f : String} {l : List String} :
    (∃ pre g post, f :: l = pre ++ g :: post ∧ (∀ x ∈ pre, p x) ∧ q g) ↔
      q f ∨ p f ∧ ∃ pre g post, l = pre ++ g :: post ∧ (∀ x ∈ pre, p x) ∧ q g := by
  constructor
  · rintro ⟨_ | ⟨x, pre⟩, g, post, h, hp, hq⟩
    · obtain ⟨rfl, -⟩ := List.cons.inj h
      exact .inl hq
    · obtain ⟨rfl, rfl⟩ := List.cons.inj h
      exact .inr ⟨hp _ (List.mem_cons_self _ _), pre, g, post, rfl,
        fun y hy => hp y (List.mem_cons_of_mem _ hy), hq⟩
  · rintro (hq | ⟨hp, pre, g, post, rfl, hpre, hq⟩)
    · exact ⟨[], f, l, rfl, by simp, hq⟩
    · exact ⟨f :: pre, g, post, rfl, List.forall_mem_cons.mpr ⟨hp, hpre⟩, hq⟩

/-- **The loop fails** with the error of the first file whose round fails, every file before it
    downloaded and copied. -/
theorem foldlM_downloadAndCopy_eq_error (calls : PullCalls) (l : List String) (modelDir : List (String × String))
    (e : String) :
    l.foldlM (downloadAndCopy calls) modelDir = .error e ↔
      ∃ pre f post, l = pre ++ f :: post ∧ (∀ g ∈ pre, calls.Fetches g) ∧ calls.Fails f e := by
  induction l generalizing modelDir with
  | nil => simp [pure, Except.pure]
  | cons f l ih =>
    rw [List.foldlM_cons, exists_first_cons_iff]
    cases h : downloadAndCopy calls modelDir f with
    | error e' =>
      -- `f` fails, with `e'` and no other error
      have hfail : calls.Fails f e ↔ e' = e := by
        rw [← downloadAndCopy_eq_error, h, Except.error.injEq]
      have hf := PullCalls.not_fetches_of_fails (downloadAndCopy_eq_error.mp h)
      simp only [bind, Except.bind, Except.error.injEq, hfail, hf, false_and, or_false]
    | ok mid =>
      have hf := (downloadAndCopy_eq_ok.mp h).1
      have hfail : ¬ calls.Fails f e := fun hfail => by
        rw [downloadAndCopy_eq_error.mpr hfail] at h; cases h
      simp only [bind, Except.bind, ih, hfail, hf, true_and, false_or]

/-! ### The selection -/

theorem onnxBase_mem (variant : String) :
    onnxBase variant ∈ ["model_fp16", "model_q4", "model_q4f16", "model_quantized", "model"] := by
  unfold onnxBase
  split <;> simp

/-- No tokenizer file is a model file of any variant. -/
theorem isONNXFile_of_tokenizer {f : String} (variant : String) (hf : Filepath.base f ∈ tokenizerFiles) :
    isONNXFile (onnxBase variant) f = false := by
  have key : ∀ b ∈ ["model_fp16", "model_q4", "model_q4f16", "model_quantized", "model"],
      ∀ tf ∈ tokenizerFiles, (tf == b ++ ".onnx" || tf == b ++ ".onnx_data") = false := by decide
  exact key _ (onnxBase_mem variant) _ hf

/-- Whether a file is a model file depends on its base name only. -/
theorem isONNXFile_congr (b : String) {f g : String} (h : Filepath.base f = Filepath.base g) :
    isONNXFile b f = isONNXFile b g := by
  simp only [isONNXFile, h]

/-- A pick is the first file named after a tokenizer file, or a model file of the listing. -/
theorem mem_selectONNXFiles {files : List String} {variant f : String} :
    f ∈ selectONNXFiles files variant ↔
      (∃ tf ∈ tokenizerFiles, files.find? (fun g => Filepath.base g == tf) = some f) ∨
        f ∈ files ∧ isONNXFile (onnxBase variant) f = true := by
  simp [selectONNXFiles]

/-- Every pick is a file of the listing. -/
theorem mem_of_mem_selectONNXFiles {files : List String} {variant f : String}
    (h : f ∈ selectONNXFiles files variant) : f ∈ files := by
  rcases mem_selectONNXFiles.mp h with ⟨tf, -, hft⟩ | ⟨hf, -⟩
  exacts [List.mem_of_find?_eq_some hft, hf]

/-- A tokenizer pick is named after its tokenizer file. -/
theorem base_of_find? {files : List String} {f tf : String}
    (h : files.find? (fun g => Filepath.base g == tf) = some f) : Filepath.base f = tf := by
  simpa using List.find?_some h

/-- A pick that is not a model file is the only pick of its name. -/
theorem eq_of_mem_selectONNXFiles {files : List String} {variant f g : String}
    (hf : f ∈ selectONNXFiles files variant) (hg : g ∈ selectONNXFiles files variant)
    (hfg : Filepath.base f = Filepath.base g) (hfo : isONNXFile (onnxBase variant) f = false) : f = g := by
  rcases mem_selectONNXFiles.mp hf with ⟨tf, htf, hft⟩ | ⟨-, hfo'⟩
  · rcases mem_selectONNXFiles.mp hg with ⟨tg, htg, hgt⟩ | ⟨-, hgo⟩
    · -- two tokenizer picks of one name were found for one tokenizer file
      obtain rfl : tf = tg := (base_of_find? hft).symm.trans (hfg.trans (base_of_find? hgt))
      exact Option.some.inj (hft.symm.trans hgt)
    · -- a model file cannot bear a tokenizer name
      rw [← isONNXFile_congr _ hfg, isONNXFile_of_tokenizer variant (base_of_find? hft ▸ htf)] at hgo
      cases hgo
  · rw [hfo'] at hfo; cases hfo

/-- **Collisions of the selection.**  Two different picks share a base name iff two different
    files of the listing do, one of them a model or data file of the variant. -/
theorem selectONNXFiles_collision_iff (files : List String) (variant : String) :
    (∃ f ∈ selectONNXFiles files variant, ∃ g ∈ selectONNXFiles files variant,
        f ≠ g ∧ Filepath.base f = Filepath.base g) ↔
      ∃ f ∈ files, ∃ g ∈ files,
        f ≠ g ∧ Filepath.base f = Filepath.base g ∧ isONNXFile (onnxBase variant) f = true := by
  constructor
  · rintro ⟨f, hf, g, hg, hne, hfg⟩
    refine ⟨f, mem_of_mem_selectONNXFiles hf, g, mem_of_mem_selectONNXFiles hg, hne, hfg, ?_⟩
    cases hfo : isONNXFile (onnxBase variant) f
    · exact absurd (eq_of_mem_selectONNXFiles hf hg hfg hfo) hne
    · rfl
  · rintro ⟨f, hf, g, hg, hne, hfg, hfo⟩
    exact ⟨f, mem_selectONNXFiles.mpr (.inr ⟨hf, hfo⟩), g,
      mem_selectONNXFiles.mpr (.inr ⟨hg, isONNXFile_congr _ hfg ▸ hfo⟩), hne, hfg⟩

/-! ### The pull -/

/-- Nothing is picked iff the listing has neither a tokenizer file nor a model file of the
    variant. -/
theorem selectONNXFiles_eq_nil_iff (files : List String) (variant : String) :
    selectONNXFiles files variant = [] ↔
      ∀ f ∈ files, Filepath.base f ∉ tokenizerFiles ∧ isONNXFile (onnxBase variant) f = false := by
  simp only [selectONNXFiles, List.append_eq_nil, List.filterMap_eq_nil_iff, List.find?_eq_none,
    List.filter_eq_nil_iff, beq_iff_eq, Bool.not_eq_true]
  exact ⟨fun h f hf => ⟨fun ht => h.1 _ ht f hf rfl, h.2 f hf⟩,
    fun h => ⟨fun _ ht f hf hft => (h f hf).1 (hft ▸ ht), fun f hf => (h f hf).2⟩⟩

/-- **A successful pull** listed the repository, picked some files, created the directory and
    downloaded and copied every pick; the directory is the loop's. -/
theorem pullFromHuggingFace_eq_ok (calls : PullCalls) (repoID variant : String)
    (modelDir dir : List (String × String)) :
    pullFromHuggingFace calls repoID variant modelDir = .ok dir ↔
      ∃ files, calls.iterFileNames = .ok files ∧ selectONNXFiles files variant ≠ [] ∧
        calls.mkdirAll = none ∧ (∀ f ∈ selectONNXFiles files variant, calls.Fetches f) ∧
        dir = (selectONNXFiles files variant).foldl copyToModelDir modelDir := by
  unfold pullFromHuggingFace
  cases calls.iterFileNames with
  | error err => simp
  | ok files =>
    by_cases hsel : selectONNXFiles files variant = []
    · simp [hsel]
    · cases calls.mkdirAll <;> simp [hsel, foldlM_downloadAndCopy_eq_ok]

/-- **The pull's errors**, in the code's order: the listing's; "no ONNX files found" exactly when
    the listing has neither a tokenizer file nor a model file of the variant; the directory's;
    and otherwise the error of the first pick whose download or copy fails, every pick before
    it downloaded and copied. -/
theorem pullFromHuggingFace_eq_error_iff (calls : PullCalls) (repoID variant : String)
    (modelDir : List (String × String)) (e : String) :
    pullFromHuggingFace calls repoID variant modelDir = .error e ↔
      (∃ err, calls.iterFileNames = .error err ∧ e = "listing files: " ++ err) ∨
      ∃ files, calls.iterFileNames = .ok files ∧
        ((∀ f ∈ files, Filepath.base f ∉ tokenizerFiles ∧ isONNXFile (onnxBase variant) f = false) ∧
            e = "no ONNX files found in " ++ repoID ∨
          selectONNXFiles files variant ≠ [] ∧
            ((∃ err, calls.mkdirAll = some err ∧ e = "creating directory: " ++ err) ∨
              calls.mkdirAll = none ∧ ∃ pre f post, selectONNXFiles files variant = pre ++ f :: post ∧
                (∀ g ∈ pre, calls.Fetches g) ∧ calls.Fails f e)) := by
  unfold pullFromHuggingFace
  cases calls.iterFileNames with
  | error err => simp [eq_comm (a := e)]
  | ok files =>
    simp only [reduceCtorEq, false_and, exists_false, Except.ok.injEq, exists_eq_left', false_or]
    rw [← selectONNXFiles_eq_nil_iff]
    by_cases hsel : selectONNXFiles files variant = []
    · simp [hsel, eq_comm (a := e)]
    · cases calls.mkdirAll <;> simp [hsel, foldlM_downloadAndCopy_eq_error, eq_comm (a := e)]

/-- **The pull loses a download** — some pick does not end up at its flattened name — exactly
    when the listing holds two different files of one base name that is the variant's model
    or data file. -/
theorem pullFromHuggingFace_loses_iff {calls : PullCalls} {repoID variant : String} {files : List String}
    {modelDir dir : List (String × String)} (hfiles : calls.iterFileNames = .ok files)
    (h : pullFromHuggingFace calls repoID variant modelDir = .ok dir) :
    (∃ f ∈ selectONNXFiles files variant, dir.lookup (Filepath.base f) ≠ some f) ↔
      ∃ f ∈ files, ∃ g ∈ files,
        f ≠ g ∧ Filepath.base f = Filepath.base g ∧ isONNXFile (onnxBase variant) f = true := by
  obtain ⟨files', hfiles', -, -, -, hdir⟩ := (pullFromHuggingFace_eq_ok calls repoID variant modelDir dir).mp h
  obtain rfl : files' = files := Except.ok.inj (hfiles'.symm.trans hfiles)
  rw [← selectONNXFiles_collision_iff, hdir]
  -- a lost pick is a failure of the loop's condition, a collision
  have := (foldl_copyToModelDir_keeps_iff (selectONNXFiles files' variant) modelDir).not
  push_neg at this
  simpa only [and_comm] using this

/-- A listing with the model at the root and under `onnx/`, as some repositories publish it. -/
def twoCopiesListing : List String :=
  ["README.md", "config.json", "model.onnx", "onnx/model.onnx", "onnx/model_quantized.onnx",
    "tokenizer.json"]

/-- Both copies of `model.onnx` are picked, and the pull keeps the second under the one name. -/
theorem pullFromHuggingFace_overwrites_model :
    selectONNXFiles twoCopiesListing "" = ["tokenizer.json", "config.json", "model.onnx", "onnx/model.onnx"] ∧
      Filepath.base "model.onnx" = Filepath.base "onnx/model.onnx" ∧
      pullFromHuggingFace (.ofListing twoCopiesListing) "org/model" "" [] =
        .ok [("model.onnx", "onnx/model.onnx"), ("config.json", "config.json"),
          ("tokenizer.json", "tokenizer.json")] :=
  ⟨by decide, by decide, rfl⟩

/-- The pull of `twoCopiesListing` succeeds and loses a pick. -/
theorem pullFromHuggingFace_loses_twoCopiesListing :
    (PullCalls.ofListing twoCopiesListing).iterFileNames = .ok twoCopiesListing ∧
      pullFromHuggingFace (.ofListing twoCopiesListing) "org/model" "" [] =
        .ok [("model.onnx", "onnx/model.onnx"), ("config.json", "config.json"), ("tokenizer.json", "tokenizer.json")] ∧
      ∃ f ∈ selectONNXFiles twoCopiesListing "",
        [("model.onnx", "onnx/model.onnx"), ("config.json", "config.json"),
          ("tokenizer.json", "tokenizer.json")].lookup (Filepath.base f) ≠ some f :=
  have h : pullFromHuggingFace (.ofListing twoCopiesListing) "org/model" "" [] =
      .ok [("model.onnx", "onnx/model.onnx"), ("config.json", "config.json"), ("tokenizer.json", "tokenizer.json")] := rfl
  ⟨rfl, h, (pullFromHuggingFace_loses_iff rfl h).mpr (by decide)⟩

/-! ### Variants -/

/-- `ValidVariants()`. -/
def validVariants : List String := ["", "fp16", "q4", "q4f16", "quantized"]

/-- `IsValidVariant(variant)`. -/
def isValidVariant (variant : String) : Bool := validVariants.contains variant

/-- `VariantDescription(variant)`. -/
def variantDescription (variant : String) : String :=
  match variant with
  | "" => "full precision (default)"
  | "fp16" => "half precision (FP16)"
  | "q4" => "4-bit quantized"
  | "q4f16" => "4-bit quantized with FP16"
  | "quantized" => "INT8 quantized"
  | _ => "unknown"

/-- The `variantPatterns` map of `DetectAvailableVariants`, in source order. -/
def variantPatterns : List (String × String) :=
  [("", "model.onnx"), ("fp16", "model_fp16.onnx"), ("q4", "model_q4.onnx"),
    ("q4f16", "model_q4f16.onnx"), ("quantized", "model_quantized.onnx")]

/-- The name `DetectAvailableVariants` reports for a variant. -/
def reportedName (variant : String) : String := if variant = "" then "default" else variant

/-- `(*HuggingFaceClient).DetectAvailableVariants(ctx, repoID)` from the repository's listing
    on, visiting `variantPatterns` in the map's iteration order `order`, which Go leaves
    unspecified. -/
def detectAvailableVariants (order : List (String × String)) (files : List String) : List String :=
  order.filterMap fun vp =>
    if files.any (fun f => Filepath.base f == vp.2) then some (reportedName vp.1) else none

/-- The variant's model file is picked iff the listing has a file of that name. -/
theorem exists_model_selectONNXFiles (files : List String) (variant : String) :
    (∃ f ∈ selectONNXFiles files variant, Filepath.base f = onnxBase variant ++ ".onnx") ↔
      ∃ f ∈ files, Filepath.base f = onnxBase variant ++ ".onnx" := by
  constructor
  · rintro ⟨f, hf, hbase⟩
    exact ⟨f, mem_of_mem_selectONNXFiles hf, hbase⟩
  · rintro ⟨f, hf, hbase⟩
    exact ⟨f, mem_selectONNXFiles.mpr (.inr ⟨hf, by simp [isONNXFile, hbase]⟩), hbase⟩

/-- Each pattern of `DetectAvailableVariants` is the model file `selectONNXFiles` looks for. -/
theorem variantPatterns_eq : variantPatterns = validVariants.map fun v => (v, onnxBase v ++ ".onnx") := by
  decide

/-- **Detection agrees with the selection.**  Whatever the map's iteration order, the variants
    detected are distinct, and a name is detected iff it is reported for a valid variant whose
    model file `selectONNXFiles` picks from the listing. -/
theorem detectAvailableVariants_agrees {order : List (String × String)} (horder : order.Perm variantPatterns)
    (files : List String) :
    (detectAvailableVariants order files).Nodup ∧
      ∀ name, name ∈ detectAvailableVariants order files ↔
        ∃ v ∈ validVariants, name = reportedName v ∧
          ∃ f ∈ selectONNXFiles files v, Filepath.base f = onnxBase v ++ ".onnx" := by
  have hperm := horder.filterMap fun vp : String × String =>
    if files.any (fun f => Filepath.base f == vp.2) then some (reportedName vp.1) else none
  refine ⟨hperm.nodup_iff.mpr ?_, fun name => ?_⟩
  · -- the reported names of the five variants are distinct
    have hnames : variantPatterns.Pairwise fun a b => reportedName a.1 ≠ reportedName b.1 := by decide
    refine hnames.filterMap _ fun a b hab x hx y hy => ?_
    split_ifs at hx hy <;> simp only [Option.mem_def, Option.some.injEq, reduceCtorEq] at hx hy
    exact hx ▸ hy ▸ hab
  · simp only [detectAvailableVariants, List.mem_filterMap, hperm.mem_iff, horder.mem_iff,
      exists_model_selectONNXFiles, variantPatterns_eq, List.mem_map, exists_exists_and_eq_and,
      Option.ite_none_right_eq_some, Option.some.injEq, List.any_eq_true, beq_iff_eq]
    exact exists_congr fun v => and_congr_right fun _ => by rw [and_comm, eq_comm]

/-- In a reversed iteration order, `quantized` is detected in a listing that has its model. -/
theorem detectAvailableVariants_agrees_reversed :
    variantPatterns.reverse.Perm variantPatterns ∧
      ("quantized" ∈ detectAvailableVariants variantPatterns.reverse twoCopiesListing ↔
        ∃ v ∈ validVariants, "quantized" = reportedName v ∧
          ∃ f ∈ selectONNXFiles twoCopiesListing v, Filepath.base f = onnxBase v ++ ".onnx") :=
  ⟨List.reverse_perm _, (detectAvailableVariants_agrees (List.reverse_perm _) twoCopiesListing).2 "quantized"⟩

/-! ### Model references -/

/-- `ParseHuggingFaceRef(ref)`. -/
def parseHuggingFaceRef (ref : String) : String × Bool :=
  match cutPrefix ref "hf:" with
  | (after, true) => (after, true)
  | _ => ("", false)

end Termite.Hugot
