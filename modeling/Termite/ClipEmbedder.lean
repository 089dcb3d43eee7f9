import Termite.ClipTokenizer

namespace Termite

open Termite.Go

/-!
# The CLIP embedder (`CLIPEmbedder`)

`CLIPEmbedder` turns images and texts into vectors of one space.  `Embed` walks the contents:
each is embedded from its first image or text part, and the first content without one, or
whose part fails, fails the whole call with its index.  An image is resized to the model's
square input, then `preprocessImage` lays its pixels out as a `[3, H, W]` tensor, channel by
channel.  The ONNX sessions, the image decoding and resizing, and the float32 arithmetic of
the normalization are not modelled: `Embed` takes the two encoders as functions, and
`preprocessImage` the resized image's pixels and the per-channel normalization.

`loadCLIPConfig` tries `clip_config.json`, then `config.json`, decoding each into the same
`CLIPConfig` value, and falls back to the ViT-B/32 defaults; JSON decoding is modelled by the
keys of a file whose values decode, which overwrite their fields.

* `loadCLIPConfig_projectionDim` — the projection dimension the embedder advertises is never
  `0`, and is positive unless a config file sets a negative `projection_dim`.
* `preprocessImage_layout` — `preprocessImage` never indexes out of its slice, and the tensor
  holds channel `c` of pixel `(x, y)` at `c·T·T + y·T + x`, for every target size `T`.
* `embedTextInputs_encode` — whenever the tokenizer's `Encode` returns, `embedText`'s
  conversion loop stays in bounds and passes the ids and the mask on unchanged, both of the
  tensors' length.
* `embed_eq_ok_iff` / `embed_error_names_first_failure` — `Embed` returns one embedding per
  content, in order, or the error of the first content that fails, naming its index.
* `embed_filter_usable` — parts that are neither images nor texts never change the result.
* `newCLIPEmbedder_isOk` — once the precision's model files are found, `NewCLIPEmbedder`
  succeeds exactly when the ONNX runtime starts and `tokenizer.json` loads.
* `newCLIPEmbedder_embedTextInputs` — every embedder `NewCLIPEmbedder` builds tokenizes every
  text into CLIP's 77 positions, and `embedText` hands those to the text session.
-/

/-! ### The configuration -/

/-- `CLIPVisionConfig`; the defaults are Go's zero values. -/
structure CLIPVisionConfig where
  hiddenSize : Int := 0
  imageSize : Int := 0
  patchSize : Int := 0
  projectionDim : Int := 0
  deriving DecidableEq, Repr

/-- `CLIPTextConfig`. -/
structure CLIPTextConfig where
  hiddenSize : Int := 0
  maxPositionEmbeddings : Int := 0
  projectionDim : Int := 0
  deriving DecidableEq, Repr

/-- `CLIPConfig`. -/
structure CLIPConfig where
  modelType : String := ""
  visionConfig : CLIPVisionConfig := {}
  textConfig : CLIPTextConfig := {}
  projectionDim : Int := 0
  deriving DecidableEq, Repr

/-- The keys of a `vision_config` object whose values decode. -/
structure CLIPVisionConfigJSON where
  hiddenSize : Option Int := none
  imageSize : Option Int := none
  patchSize : Option Int := none
  projectionDim : Option Int := none
  deriving DecidableEq, Repr

/-- The keys of a `text_config` object whose values decode. -/
structure CLIPTextConfigJSON where
  hiddenSize : Option Int := none
  maxPositionEmbeddings : Option Int := none
  projectionDim : Option Int := none
  deriving DecidableEq, Repr

/-- The keys of a config file's object whose values decode into `CLIPConfig`. -/
structure CLIPConfigJSON where
  modelType : Option String := none
  visionConfig : Option CLIPVisionConfigJSON := none
  textConfig : Option CLIPTextConfigJSON := none
  projectionDim : Option Int := none
  deriving DecidableEq, Repr

/-- `json.Unmarshal` of a `vision_config` object into an existing value: the keys present
    overwrite their fields, the others are kept. -/
def CLIPVisionConfigJSON.unmarshal (j : CLIPVisionConfigJSON) (c : CLIPVisionConfig) : CLIPVisionConfig where
  hiddenSize := j.hiddenSize.getD c.hiddenSize
  imageSize := j.imageSize.getD c.imageSize
  patchSize := j.patchSize.getD c.patchSize
  projectionDim := j.projectionDim.getD c.projectionDim

/-- `json.Unmarshal` of a `text_config` object into an existing value. -/
def CLIPTextConfigJSON.unmarshal (j : CLIPTextConfigJSON) (c : CLIPTextConfig) : CLIPTextConfig where
  hiddenSize := j.hiddenSize.getD c.hiddenSize
  maxPositionEmbeddings := j.maxPositionEmbeddings.getD c.maxPositionEmbeddings
  projectionDim := j.projectionDim.getD c.projectionDim

/-- `json.Unmarshal(data, &config)` into the `config` the loop already holds: nested objects are
    decoded into the nested values in place. -/
def CLIPConfigJSON.unmarshal (j : CLIPConfigJSON) (c : CLIPConfig) : CLIPConfig where
  modelType := j.modelType.getD c.modelType
  visionConfig := (j.visionConfig.map (·.unmarshal c.visionConfig)).getD c.visionConfig
  textConfig := (j.textConfig.map (·.unmarshal c.textConfig)).getD c.textConfig
  projectionDim := j.projectionDim.getD c.projectionDim

/-- A candidate config file as `loadCLIPConfig` finds it. -/
inductive ConfigFile
  /-- `os.ReadFile` fails. -/
  | unreadable
  /-- Not JSON: `json.Unmarshal` sets nothing and fails. -/
  | malformed
  /-- JSON whose decodable values are `json`; with `typeError`, some other value has the wrong
      type, and `json.Unmarshal` sets the rest and fails. -/
  | decoded (json : CLIPConfigJSON) (typeError : Bool)
  deriving DecidableEq, Repr

/-- The default config of `loadCLIPConfig`, for CLIP ViT-B/32. -/
def defaultCLIPConfig : CLIPConfig where
  modelType := "clip"
  projectionDim := 512
  visionConfig := { hiddenSize := 768, imageSize := 224, patchSize := 32, projectionDim := 512 }
  textConfig := { hiddenSize := 512, maxPositionEmbeddings := 77, projectionDim := 512 }

/-- The loop of `loadCLIPConfig` over its candidate files, with the `config` it decodes into. -/
def loadConfigs (config : CLIPConfig) : List ConfigFile → CLIPConfig
  | [] => defaultCLIPConfig
  | .unreadable :: files | .malformed :: files => loadConfigs config files
  | .decoded json typeError :: files =>
    let config := json.unmarshal config
    if typeError then loadConfigs config files
    else if config.projectionDim > 0 || config.visionConfig.projectionDim > 0 then
      if config.projectionDim = 0 then { config with projectionDim := config.visionConfig.projectionDim }
      else config
    else loadConfigs config files

/-- `loadCLIPConfig(modelPath)`, given what `clip_config.json` and `config.json` hold.  It never
    returns an error. -/
def loadCLIPConfig (clipConfigJSON configJSON : ConfigFile) : CLIPConfig :=
  loadConfigs {} [clipConfigJSON, configJSON]

/-- The file's top-level `projection_dim` decodes, to a negative number. -/
def ConfigFile.setsNegativeProjection : ConfigFile → Prop
  | .decoded json _ => ∃ p < 0, json.projectionDim = some p
  | _ => False

/-- A negative dimension after decoding was in the file or in the config before. -/
theorem unmarshal_projectionDim_neg {json : CLIPConfigJSON} {config : CLIPConfig} (typeError : Bool)
    (h : (json.unmarshal config).projectionDim < 0) :
    config.projectionDim < 0 ∨ (ConfigFile.decoded json typeError).setsNegativeProjection := by
  simp only [CLIPConfigJSON.unmarshal] at h
  cases hj : json.projectionDim with
  | none => exact .inl (by simpa [hj] using h)
  | some p => exact .inr ⟨p, by simpa [hj] using h, hj⟩

/-- **Run lemma.**  The loop returns a positive projection dimension, or a negative one that a
    file, or the config it started from, holds; never `0`. -/
theorem loadConfigs_projectionDim (config : CLIPConfig) (files : List ConfigFile) :
    0 < (loadConfigs config files).projectionDim ∨
      (loadConfigs config files).projectionDim < 0 ∧
        (config.projectionDim < 0 ∨ ∃ f ∈ files, f.setsNegativeProjection) := by
  induction files generalizing config with
  | nil => exact .inl (show (0 : Int) < 512 by decide)
  | cons f files ih =>
    -- what the rest of the loop returns, from the config after `f`
    have hnext : ∀ config', (config'.projectionDim < 0 → config.projectionDim < 0 ∨ f.setsNegativeProjection) →
        0 < (loadConfigs config' files).projectionDim ∨ (loadConfigs config' files).projectionDim < 0 ∧
          (config.projectionDim < 0 ∨ ∃ g ∈ f :: files, g.setsNegativeProjection) := fun config' hc =>
      (ih config').imp_right fun ⟨hneg, hfrom⟩ => ⟨hneg, by
        rcases hfrom with h | ⟨g, hg, hgn⟩
        · exact (hc h).imp_right fun hf => ⟨f, List.mem_cons_self f files, hf⟩
        · exact .inr ⟨g, List.mem_cons_of_mem f hg, hgn⟩⟩
    cases f with
    | unreadable => exact hnext config .inl
    | malformed => exact hnext config .inl
    | decoded json typeError =>
      simp only [loadConfigs]
      split_ifs with hte hacc hzero
      · exact hnext _ (unmarshal_projectionDim_neg typeError)
      · -- accepted with no top-level dimension: the vision one, positive, is taken
        simp only [Bool.or_eq_true, decide_eq_true_eq] at hacc
        exact .inl (by simp only; omega)
      · -- accepted with its own dimension, which is not `0`
        rcases Int.lt_or_gt_of_ne hzero with hneg | hpos
        · exact .inr ⟨hneg, (unmarshal_projectionDim_neg typeError hneg).imp_right
            fun hf => ⟨_, List.mem_cons_self _ files, hf⟩⟩
        · exact .inl hpos
      · exact hnext _ (unmarshal_projectionDim_neg typeError)

/-- **The advertised dimension is never `0`.**  Whatever `clip_config.json` and `config.json`
    hold, `loadCLIPConfig`'s projection dimension is positive, unless one of them sets a
    negative `projection_dim`. -/
theorem loadCLIPConfig_projectionDim (clipConfigJSON configJSON : ConfigFile) :
    0 < (loadCLIPConfig clipConfigJSON configJSON).projectionDim ∨
      (loadCLIPConfig clipConfigJSON configJSON).projectionDim < 0 ∧
        (clipConfigJSON.setsNegativeProjection ∨ configJSON.setsNegativeProjection) := by
  refine (loadConfigs_projectionDim {} _).imp_right fun ⟨hneg, hfrom⟩ => ⟨hneg, ?_⟩
  rcases hfrom with h | ⟨f, hf, hfn⟩
  · exact absurd h (by decide)
  · simp only [List.mem_cons, List.mem_singleton, List.not_mem_nil, or_false] at hf
    rcases hf with rfl | rfl
    exacts [.inl hfn, .inr hfn]

/-! ### Image preprocessing -/

section Preprocess

variable {α : Type}

/-- `s[i] = v` on a Go slice; `none` is the index-out-of-range panic. -/
def sliceSet (s : List α) (i : Nat) (v : α) : Option (List α) :=
  if i < s.length then some (s.set i v) else none

/-- The body of `preprocessImage`'s inner loop at `(x, y)`: the pixel's normalized channels
    stored in the three planes of the `[C, H, W]` tensor. -/
def storePixel (targetSize : Nat) (pixels : List α) (x y : Nat) (rf gf bf : α) : Option (List α) := do
  let idx := y * targetSize + x
  let pixels ← sliceSet pixels (0 * targetSize * targetSize + idx) rf
  let pixels ← sliceSet pixels (1 * targetSize * targetSize + idx) gf
  sliceSet pixels (2 * targetSize * targetSize + idx) bf

/-- Channel `c` of an `RGBA()` triple: red, green, blue. -/
def rgbChannel (rgb : Nat × Nat × Nat) : Nat → Nat
  | 0 => rgb.1
  | 1 => rgb.2.1
  | _ => rgb.2.2

/-- `preprocessImage(img, targetSize)` from the resized image on: `rgba x y` is
    `resized.At(x, y).RGBA()` (alpha dropped), and `normalize c v` is the float32
    `(float32(v) / 255.0 - mean[c]) / std[c]`; `zero` is the float32 `0`. -/
def preprocessImage (zero : α) (rgba : Nat → Nat → Nat × Nat × Nat) (normalize : Nat → Nat → α)
    (targetSize : Nat) : Option (List α) :=
  (List.range targetSize).foldlM (fun pixels y =>
      (List.range targetSize).foldlM (fun pixels x =>
          storePixel targetSize pixels x y (normalize 0 (rgbChannel (rgba x y) 0 >>> 8))
            (normalize 1 (rgbChannel (rgba x y) 1 >>> 8)) (normalize 2 (rgbChannel (rgba x y) 2 >>> 8)))
        pixels)
    (List.replicate (3 * targetSize * targetSize) zero)

/-! #### The `[C, H, W]` index -/

theorem mul_add_inj {T a a' x x' : Nat} (hx : x < T) (hx' : x' < T) (h : a * T + x = a' * T + x') :
    a = a' ∧ x = x' := by
  have hT : 0 < T := by omega
  have hdiv := congrArg (· / T) h
  have hmod := congrArg (· % T) h
  simp only [Nat.add_comm (_ * T), Nat.add_mul_div_right _ _ hT, Nat.div_eq_of_lt hx, Nat.div_eq_of_lt hx',
    Nat.add_mul_mod_self_right, Nat.mod_eq_of_lt hx, Nat.mod_eq_of_lt hx'] at hdiv hmod
  omega

theorem chw_index_eq {T c c' y y' x x' : Nat} (hy : y < T) (hy' : y' < T) (hx : x < T) (hx' : x' < T) :
    c * T * T + (y * T + x) = c' * T * T + (y' * T + x') ↔ c = c' ∧ y = y' ∧ x = x' := by
  refine ⟨fun h => ?_, by rintro ⟨rfl, rfl, rfl⟩; rfl⟩
  -- the index is `(c·T + y)·T + x`, a number in base `T` twice over
  rw [← Nat.add_assoc, ← Nat.add_assoc, ← Nat.add_mul, ← Nat.add_mul] at h
  obtain ⟨hcy, rfl⟩ := mul_add_inj hx hx' h
  obtain ⟨rfl, rfl⟩ := mul_add_inj hy hy' hcy
  exact ⟨rfl, rfl, rfl⟩

theorem chw_index_lt {T c y x : Nat} (hc : c < 3) (hy : y < T) (hx : x < T) :
    c * T * T + (y * T + x) < 3 * T * T := by
  have hrow : y * T + x < T * T :=
    calc y * T + x < (y + 1) * T := by rw [Nat.add_mul, Nat.one_mul]; omega
      _ ≤ T * T := Nat.mul_le_mul_right T hy
  calc c * T * T + (y * T + x) < (c + 1) * T * T := by rw [Nat.mul_assoc, Nat.mul_assoc, Nat.add_mul]; omega
    _ ≤ 3 * T * T := by rw [Nat.mul_assoc, Nat.mul_assoc]; exact Nat.mul_le_mul_right _ hc

/-- The tensor holds `cell c y x` at the index of channel `c` of pixel `(x, y)`. -/
def Layout (T : Nat) (pixels : List α) (cell : Nat → Nat → Nat → α) : Prop :=
  pixels.length = 3 * T * T ∧
    ∀ c < 3, ∀ y < T, ∀ x < T, pixels[c * T * T + (y * T + x)]? = some (cell c y x)

theorem Layout.congr {T : Nat} {pixels : List α} {cell cell' : Nat → Nat → Nat → α} (h : Layout T pixels cell)
    (hcell : ∀ c < 3, ∀ y < T, ∀ x < T, cell c y x = cell' c y x) : Layout T pixels cell' :=
  ⟨h.1, fun c hc y hy x hx => hcell c hc y hy x hx ▸ h.2 c hc y hy x hx⟩

/-- The three channel values of one pixel, by channel. -/
def pickChannel (rf gf bf : α) : Nat → α
  | 0 => rf
  | 1 => gf
  | _ => bf

/-- **Step lemma.** Storing pixel `(x₀, y₀)` stays in bounds and sets exactly its three cells. -/
theorem storePixel_layout {T x₀ y₀ : Nat} {pixels : List α} {cell : Nat → Nat → Nat → α} (hx₀ : x₀ < T)
    (hy₀ : y₀ < T) (h : Layout T pixels cell) (rf gf bf : α) :
    ∃ pixels', storePixel T pixels x₀ y₀ rf gf bf = some pixels' ∧
      Layout T pixels' fun c y x => if y = y₀ ∧ x = x₀ then pickChannel rf gf bf c else cell c y x := by
  have hlt : ∀ c < 3, c * T * T + (y₀ * T + x₀) < 3 * T * T := fun c hc => chw_index_lt hc hy₀ hx₀
  refine ⟨((pixels.set (0 * T * T + (y₀ * T + x₀)) rf).set (1 * T * T + (y₀ * T + x₀)) gf).set
    (2 * T * T + (y₀ * T + x₀)) bf, ?_, by simp only [List.length_set, h.1], ?_⟩
  · simp only [storePixel, sliceSet, List.length_set, h.1, if_pos (hlt 0 (by omega)), if_pos (hlt 1 (by omega)),
      if_pos (hlt 2 (by omega)), Option.bind_eq_bind, Option.some_bind]
  intro c hc y hy x hx
  simp only [List.getElem?_set, List.length_set, h.1, hlt 0 (by omega), hlt 1 (by omega), hlt 2 (by omega), if_true,
    chw_index_eq hy₀ hy hx₀ hx, h.2 c hc y hy x hx]
  by_cases hp : y = y₀ ∧ x = x₀
  · obtain ⟨rfl, rfl⟩ := hp
    rcases (by omega : c = 0 ∨ c = 1 ∨ c = 2) with rfl | rfl | rfl <;> simp [pickChannel]
  · have : ¬ (y₀ = y ∧ x₀ = x) := fun ⟨h₁, h₂⟩ => hp ⟨h₁.symm, h₂.symm⟩
    simp [hp, this]

/-- **Run lemma** of the inner loop: storing row `y₀` sets the cells of the columns visited. -/
theorem foldlM_storePixel_row {T y₀ : Nat} (hy₀ : y₀ < T) (r g b : Nat → α) :
    ∀ xs : List Nat, (∀ x ∈ xs, x < T) → ∀ {pixels : List α} {cell : Nat → Nat → Nat → α},
      Layout T pixels cell → ∃ pixels', xs.foldlM (fun pixels x => storePixel T pixels x y₀ (r x) (g x) (b x)) pixels = some pixels' ∧
        Layout T pixels' fun c y x => if y = y₀ ∧ x ∈ xs then pickChannel (r x) (g x) (b x) c else cell c y x
  | [], _, pixels, _, h => ⟨pixels, rfl, h.congr fun _ _ _ _ _ _ => by simp⟩
  | x₀ :: xs, hxs, _, _, h => by
    obtain ⟨p₁, hp₁, h₁⟩ :=
      storePixel_layout (hxs x₀ (List.mem_cons_self x₀ xs)) hy₀ h (r x₀) (g x₀) (b x₀)
    obtain ⟨p₂, hp₂, h₂⟩ :=
      foldlM_storePixel_row hy₀ r g b xs (fun x hx => hxs x (List.mem_cons_of_mem x₀ hx)) h₁
    refine ⟨p₂, by simp only [List.foldlM_cons, hp₁, Option.bind_eq_bind, Option.some_bind, hp₂], h₂.congr ?_⟩
    intro c _ y _ x _
    by_cases hy : y = y₀ <;> by_cases hx : x = x₀ <;> simp [hy, hx]

/-- **Run lemma** of the outer loop: storing rows sets every cell of the rows visited. -/
theorem foldlM_storePixel_rows {T : Nat} (r g b : Nat → Nat → α) :
    ∀ ys : List Nat, (∀ y ∈ ys, y < T) → ∀ {pixels : List α} {cell : Nat → Nat → Nat → α},
      Layout T pixels cell → ∃ pixels', ys.foldlM (fun pixels y => (List.range T).foldlM
          (fun pixels x => storePixel T pixels x y (r x y) (g x y) (b x y)) pixels) pixels = some pixels' ∧
        Layout T pixels' fun c y x => if y ∈ ys then pickChannel (r x y) (g x y) (b x y) c else cell c y x
  | [], _, pixels, _, h => ⟨pixels, rfl, h.congr fun _ _ _ _ _ _ => by simp⟩
  | y₀ :: ys, hys, _, _, h => by
    obtain ⟨p₁, hp₁, h₁⟩ :=
      foldlM_storePixel_row (hys y₀ (List.mem_cons_self y₀ ys)) (r · y₀) (g · y₀) (b · y₀)
      (List.range T) (fun x hx => List.mem_range.mp hx) h
    obtain ⟨p₂, hp₂, h₂⟩ :=
      foldlM_storePixel_rows r g b ys (fun y hy => hys y (List.mem_cons_of_mem y₀ hy)) h₁
    refine ⟨p₂, by simp only [List.foldlM_cons, hp₁, Option.bind_eq_bind, Option.some_bind, hp₂], h₂.congr ?_⟩
    intro c _ y _ x hx
    by_cases hy : y = y₀
    · subst hy; simp [hx]
    · simp [hy]

/-- **The `[C, H, W]` layout.**  For every target size `T`, `preprocessImage` stays inside its
    slice of `3·T·T` floats and stores channel `c` of pixel `(x, y)`, normalized, at
    `c·T·T + y·T + x`: every cell of the tensor is written, each by its own pixel. -/
theorem preprocessImage_layout (zero : α) (rgba : Nat → Nat → Nat × Nat × Nat) (normalize : Nat → Nat → α)
    (T : Nat) :
    ∃ pixels, preprocessImage zero rgba normalize T = some pixels ∧ pixels.length = 3 * T * T ∧
      ∀ c < 3, ∀ y < T, ∀ x < T,
        pixels[c * T * T + (y * T + x)]? = some (normalize c (rgbChannel (rgba x y) c >>> 8)) := by
  have h₀ : Layout T (List.replicate (3 * T * T) zero) fun _ _ _ => zero :=
    ⟨List.length_replicate _ _, fun c hc y hy x hx => by
      rw [List.getElem?_replicate, if_pos (chw_index_lt hc hy hx)]⟩
  obtain ⟨pixels, hrun, hl⟩ := foldlM_storePixel_rows (fun x y => normalize 0 (rgbChannel (rgba x y) 0 >>> 8))
    (fun x y => normalize 1 (rgbChannel (rgba x y) 1 >>> 8)) (fun x y => normalize 2 (rgbChannel (rgba x y) 2 >>> 8))
    (List.range T) (fun y hy => List.mem_range.mp hy) h₀
  refine ⟨pixels, hrun, hl.1, fun c hc y hy x hx => ?_⟩
  simp only [hl.2 c hc y hy x hx, List.mem_range, hy, if_true]
  rcases (by omega : c = 0 ∨ c = 1 ∨ c = 2) with rfl | rfl | rfl <;> rfl

example : preprocessImage 0 (fun x y => (x * 256, y * 256, 0)) (fun c v => 10 * c + v) 2 =
    some [0, 1, 0, 1, 10, 10, 11, 11, 20, 20, 20, 20] := by decide

end Preprocess

/-! ### The text encoder's inputs -/

section TextInputs

/-- One round of the conversion loop of `embedText`: `inputIDs64[i] = int64(inputIDs[i])` and
    `attMask64[i] = int64(attentionMask[i])`; `none` is an index-out-of-range panic.  Go's `int`
    is 64 bits wide, so the conversions keep the values. -/
def int64Step (inputIDs attentionMask : List Int) (acc : List Int × List Int) (i : Nat) :
    Option (List Int × List Int) := do
  let id ← inputIDs[i]?
  let mask ← attentionMask[i]?
  let inputIDs64 ← sliceSet acc.1 i id
  let attMask64 ← sliceSet acc.2 i mask
  pure (inputIDs64, attMask64)

/-- The conversion loop of `embedText`, over the indices of the ids, into slices made with the
    lengths of the two lists. -/
def int64Inputs (inputIDs attentionMask : List Int) : Option (List Int × List Int) :=
  (List.range inputIDs.length).foldlM (int64Step inputIDs attentionMask)
    (List.replicate inputIDs.length 0, List.replicate attentionMask.length 0)

variable (unicodeToLower : Char → Char)

/-- `embedText(text)` up to the ONNX session: the two int64 slices and `seqLen`, the length of
    both tensors' second dimension. -/
def embedTextInputs (t : CLIPTokenizer) (text : String) : Option (List Int × List Int × Nat) := do
  let (inputIDs, attentionMask) ← t.encode unicodeToLower text
  let (inputIDs64, attMask64) ← int64Inputs inputIDs attentionMask
  pure (inputIDs64, attMask64, inputIDs.length)

/-- Setting the first free cell of a copy in progress extends the copied prefix. -/
theorem set_take_append_replicate {l : List Int} {k : Nat} (hk : k < l.length) :
    (l.take k ++ List.replicate (l.length - k) 0).set k l[k] = l.take (k + 1) ++ List.replicate (l.length - (k + 1)) 0 := by
  have hlen : (l.take k).length = k := List.length_take_of_le (by omega)
  obtain ⟨r, hr⟩ : ∃ r, l.length - k = r + 1 := ⟨l.length - k - 1, by omega⟩
  rw [List.set_append_right _ _ (by omega), hlen, Nat.sub_self, hr, List.replicate_succ, List.set_cons_zero,
    List.take_succ, List.getElem?_eq_getElem hk, Option.toList_some, List.append_assoc, List.singleton_append,
    show l.length - (k + 1) = r by omega]

/-- **Run lemma** of the conversion loop: on lists of one length it copies both, in bounds. -/
theorem int64Inputs_eq {inputIDs attentionMask : List Int} (h : attentionMask.length = inputIDs.length) :
    int64Inputs inputIDs attentionMask = some (inputIDs, attentionMask) := by
  -- after the first `k` indices, the first `k` values of each list are copied
  have hrun : ∀ k ≤ inputIDs.length, (List.range k).foldlM (int64Step inputIDs attentionMask)
      (List.replicate inputIDs.length 0, List.replicate attentionMask.length 0) =
      some (inputIDs.take k ++ List.replicate (inputIDs.length - k) 0,
        attentionMask.take k ++ List.replicate (attentionMask.length - k) 0) := by
    intro k hk
    induction k with
    | zero => rfl
    | succ k ih =>
      have hk' : k < inputIDs.length := by omega
      have hm : k < attentionMask.length := by omega
      rw [List.range_succ, List.foldlM_append, ih (by omega)]
      simp only [List.foldlM_cons, List.foldlM_nil, int64Step, Option.bind_eq_bind, Option.some_bind,
        List.getElem?_eq_getElem hk', List.getElem?_eq_getElem hm, sliceSet, List.length_append,
        List.length_take, List.length_replicate, Nat.min_eq_left (Nat.le_of_lt hk'), Nat.min_eq_left (Nat.le_of_lt hm),
        show k + (inputIDs.length - k) = inputIDs.length by omega,
        show k + (attentionMask.length - k) = attentionMask.length by omega, if_pos hk', if_pos hm,
        set_take_append_replicate hk', set_take_append_replicate hm]
      rfl
  have := hrun inputIDs.length le_rfl
  rw [List.take_length, Nat.sub_self, List.replicate_zero, List.append_nil, List.take_of_length_le h.le,
    Nat.sub_eq_zero_of_le h.le, List.replicate_zero, List.append_nil] at this
  exact this

/-- Whenever `Encode` returns, `embedText` hands the session its ids and mask. -/
theorem embedTextInputs_of_encode {t : CLIPTokenizer} {text : String} {inputIDs attentionMask : List Int}
    (h : t.encode unicodeToLower text = some (inputIDs, attentionMask)) :
    embedTextInputs unicodeToLower t text = some (inputIDs, attentionMask, inputIDs.length) := by
  simp only [embedTextInputs, h, int64Inputs_eq (CLIPTokenizer.encode_length_eq unicodeToLower h),
    Option.bind_eq_bind, Option.some_bind]
  rfl

/-- **`embedText` never indexes past its inputs.**  Whenever `Encode` returns, the conversion
    loop of `embedText` stays in bounds and hands the session `Encode`'s ids and mask unchanged,
    both of the length `seqLen` that shapes the two tensors. -/
theorem embedTextInputs_encode {t : CLIPTokenizer} {text : String} {inputIDs attentionMask : List Int}
    (h : t.encode unicodeToLower text = some (inputIDs, attentionMask)) :
    embedTextInputs unicodeToLower t text = some (inputIDs, attentionMask, inputIDs.length) ∧
      attentionMask.length = inputIDs.length :=
  ⟨embedTextInputs_of_encode unicodeToLower h, CLIPTokenizer.encode_length_eq unicodeToLower h⟩

/-- A photo caption on a window of five positions reaches the text session as five ids. -/
theorem embedTextInputs_photoCaption :
    { photoTokenizer with maxLength := 5 }.encode Char.toLower "a photo" =
        some ([49406, 320, 1125, 49407, 0], [1, 1, 1, 1, 0]) ∧
      embedTextInputs Char.toLower { photoTokenizer with maxLength := 5 } "a photo" =
        some ([49406, 320, 1125, 49407, 0], [1, 1, 1, 1, 0], 5) :=
  have h : { photoTokenizer with maxLength := 5 }.encode Char.toLower "a photo" =
      some ([49406, 320, 1125, 49407, 0], [1, 1, 1, 1, 0]) := by decide
  ⟨h, (embedTextInputs_encode Char.toLower h).1⟩

end TextInputs

/-! ### `Embed` -/

/-- A part of a content: an `ai.BinaryContent`, an `ai.TextContent`, or a part of another type. -/
inductive ContentPart
  | binary (mimeType : String) (data : List UInt8)
  | text (text : String)
  | other
  deriving DecidableEq, Repr

/-- The parts `Embed`'s type switch acts on: an image, by its MIME type, or a text. -/
def ContentPart.usable : ContentPart → Bool
  | .binary mimeType _ => hasPrefix mimeType "image/"
  | .text _ => true
  | .other => false

section Embed

/- An embedding is an `E` (a `[]float32`); an encoder's `none` is a nil slice returned without
an error.  `embedImage` and `embedText` run the ONNX encoders. -/
variable {E : Type} (embedImage : List UInt8 → Except String (Option E))
  (embedText : String → Except String (Option E))

/-- The loop over the parts of content `i` in `Embed`: the first non-nil embedding of an image
    or text part, or the first error. -/
def embedParts (i : Nat) : List ContentPart → Except String (Option E)
  | [] => .ok none
  | .binary mimeType data :: parts =>
    if hasPrefix mimeType "image/" then
      match embedImage data with
      | .error err => .error ("embedding image at index " ++ toString i ++ ": " ++ err)
      | .ok (some e) => .ok (some e)
      | .ok none => embedParts i parts
    else embedParts i parts
  | .text text :: parts =>
    match embedText text with
    | .error err => .error ("embedding text at index " ++ toString i ++ ": " ++ err)
    | .ok (some e) => .ok (some e)
    | .ok none => embedParts i parts
  | .other :: parts => embedParts i parts

/-- The body of `Embed`'s loop over the contents, at index `i`: the embedding of content `i`. -/
def embedContent (i : Nat) (parts : List ContentPart) : Except String E :=
  match embedParts embedImage embedText i parts with
  | .error err => .error err
  | .ok none => .error ("no valid content found at index " ++ toString i)
  | .ok (some e) => .ok e

/-- The loop over the contents in `Embed`, from index `i` on. -/
def embedContents (i : Nat) : List (List ContentPart) → Except String (List E)
  | [] => .ok []
  | parts :: contents =>
    match embedContent embedImage embedText i parts with
    | .error err => .error err
    | .ok e => (embedContents (i + 1) contents).map (e :: ·)

/-- `(*CLIPEmbedder).Embed(ctx, contents)`. -/
def embed (contents : List (List ContentPart)) : Except String (List E) :=
  if contents.length = 0 then .ok [] else embedContents embedImage embedText 0 contents

/-- Only the index in an error depends on the content's position. -/
theorem embedParts_ok_index {i : Nat} (j : Nat) {parts : List ContentPart} {o : Option E}
    (h : embedParts embedImage embedText i parts = .ok o) : embedParts embedImage embedText j parts = .ok o := by
  induction parts with
  | nil => exact h
  | cons part parts ih =>
    cases part with
    | binary mimeType data =>
      unfold embedParts at h ⊢
      by_cases himg : hasPrefix mimeType "image/" = true
      · rw [if_pos himg] at h ⊢
        split at h <;> simp_all
      · rw [if_neg himg] at h ⊢
        exact ih h
    | text text => unfold embedParts at h ⊢; split at h <;> simp_all
    | other => exact ih h

/-- A part that is neither an image nor a text is skipped. -/
theorem embedParts_filter_usable (i : Nat) (parts : List ContentPart) :
    embedParts embedImage embedText i (parts.filter ContentPart.usable) = embedParts embedImage embedText i parts := by
  induction parts with
  | nil => rfl
  | cons part parts ih =>
    cases part with
    | binary mimeType data =>
      by_cases himg : hasPrefix mimeType "image/" = true
      · simp only [List.filter_cons, ContentPart.usable, himg, if_true, embedParts, ih]
      · simp [List.filter_cons, ContentPart.usable, himg, embedParts, ih]
    | text text => simp only [List.filter_cons, ContentPart.usable, if_true, embedParts, ih]
    | other => simpa [ContentPart.usable, embedParts] using ih

theorem embedContents_cons_eq_ok_iff {i : Nat} {parts : List ContentPart} {contents : List (List ContentPart)}
    {e : E} {es : List E} :
    embedContents embedImage embedText i (parts :: contents) = .ok (e :: es) ↔
      embedContent embedImage embedText i parts = .ok e ∧
        embedContents embedImage embedText (i + 1) contents = .ok es := by
  rw [embedContents]
  cases embedContent embedImage embedText i parts <;> cases embedContents embedImage embedText (i + 1) contents <;>
    simp [Except.map]

/-- **Run lemma** for a successful loop: one embedding per content, content `k`'s at `k`. -/
theorem embedContents_eq_ok_iff (i : Nat) (contents : List (List ContentPart)) (es : List E) :
    embedContents embedImage embedText i contents = .ok es ↔
      es.length = contents.length ∧ ∀ k (h₁ : k < contents.length) (h₂ : k < es.length),
        embedContent embedImage embedText (i + k) contents[k] = .ok es[k] := by
  induction contents generalizing i es with
  | nil => cases es <;> simp [embedContents]
  | cons parts contents ih =>
    cases es with
    | nil =>
      -- a non-empty loop never returns the empty list
      refine iff_of_false (fun h => ?_) (by simp)
      rw [embedContents] at h
      revert h
      cases embedContent embedImage embedText i parts <;> cases embedContents embedImage embedText (i + 1) contents <;>
        simp [Except.map]
    | cons e es =>
      rw [embedContents_cons_eq_ok_iff, ih]
      constructor
      · rintro ⟨h₀, hlen, hrest⟩
        refine ⟨by simp [hlen], fun k h₁ h₂ => ?_⟩
        cases k with
        | zero => exact h₀
        | succ k => simpa [Nat.add_assoc, Nat.add_comm 1 k] using hrest k (by simpa using h₁) (by simpa using h₂)
      · rintro ⟨hlen, h⟩
        refine ⟨h 0 (by simp) (by simp), by simpa using hlen, fun k h₁ h₂ => ?_⟩
        simpa [Nat.add_assoc, Nat.add_comm 1 k] using h (k + 1) (by simpa using h₁) (by simpa using h₂)

/-- **Run lemma** for a failing loop: the error is that of the first content that fails. -/
theorem embedContents_eq_error_iff (i : Nat) (contents : List (List ContentPart)) (err : String) :
    embedContents embedImage embedText i contents = .error err ↔
      ∃ k, ∃ h : k < contents.length,
        (∀ j (hj : j < k), ∃ e, embedContent embedImage embedText (i + j) contents[j] = .ok e) ∧
        embedContent embedImage embedText (i + k) contents[k] = .error err := by
  induction contents generalizing i with
  | nil => simp [embedContents]
  | cons parts contents ih =>
    rw [embedContents]
    cases hc : embedContent embedImage embedText i parts with
    | error e =>
      -- content `i` fails: it is the first failure
      constructor
      · rintro ⟨⟩
        exact ⟨0, by simp, fun j hj => absurd hj (Nat.not_lt_zero j), by simpa using hc⟩
      · rintro ⟨k, hk, hpre, hfail⟩
        cases k with
        | zero => simpa [hc] using hfail
        | succ k => obtain ⟨e', he'⟩ := hpre 0 (Nat.succ_pos k); simp [hc] at he'
    | ok e =>
      -- content `i` succeeds: the failure is the first one among the rest
      have hmap : ∀ x : Except String (List E), Except.map (e :: ·) x = .error err ↔ x = .error err := by
        intro x; cases x <;> simp [Except.map]
      simp only [hmap, ih]
      constructor
      · rintro ⟨k, hk, hpre, hfail⟩
        refine ⟨k + 1, by simpa using hk, fun j hj => ?_, by simpa [Nat.add_assoc, Nat.add_comm 1 k] using hfail⟩
        cases j with
        | zero => exact ⟨e, by simpa using hc⟩
        | succ j => simpa [Nat.add_assoc, Nat.add_comm 1 j] using hpre j (by omega)
      · rintro ⟨k, hk, hpre, hfail⟩
        cases k with
        | zero => simp [hc] at hfail
        | succ k =>
          refine ⟨k, by simpa using hk, fun j hj => ?_, by simpa [Nat.add_assoc, Nat.add_comm 1 k] using hfail⟩
          simpa [Nat.add_assoc, Nat.add_comm 1 j] using hpre (j + 1) (by omega)

theorem embed_eq (contents : List (List ContentPart)) :
    embed embedImage embedText contents = embedContents embedImage embedText 0 contents := by
  unfold embed
  split
  · rename_i hlen
    rw [List.eq_nil_of_length_eq_zero hlen]; rfl
  · rfl

/-- The error of a part names the content's index and the kind of the part. -/
theorem embedParts_error {i : Nat} {parts : List ContentPart} {err : String}
    (h : embedParts embedImage embedText i parts = .error err) :
    ∃ cause, err = "embedding image at index " ++ toString i ++ ": " ++ cause ∨
      err = "embedding text at index " ++ toString i ++ ": " ++ cause := by
  induction parts with
  | nil => cases h
  | cons part parts ih =>
    cases part with
    | binary mimeType data =>
      unfold embedParts at h
      split at h
      · split at h
        · exact ⟨_, .inl (Except.error.inj h).symm⟩
        · cases h
        · exact ih h
      · exact ih h
    | text text =>
      unfold embedParts at h
      split at h
      · exact ⟨_, .inr (Except.error.inj h).symm⟩
      · cases h
      · exact ih h
    | other => exact ih h

/-- The error of a content names its index, and either its failing part or that it has none. -/
theorem embedContent_error {i : Nat} {parts : List ContentPart} {err : String}
    (h : embedContent embedImage embedText i parts = .error err) :
    err = "no valid content found at index " ++ toString i ∨
      ∃ cause, err = "embedding image at index " ++ toString i ++ ": " ++ cause ∨
        err = "embedding text at index " ++ toString i ++ ": " ++ cause := by
  unfold embedContent at h
  split at h
  · rename_i hparts
    exact .inr (Except.error.inj h ▸ embedParts_error embedImage embedText hparts)
  · exact .inl (Except.error.inj h).symm
  · cases h

/-- **`Embed` succeeds** iff every content is embedded, and then it returns one embedding per
    content, in order: content `k`'s embedding is its first non-nil image or text embedding. -/
theorem embed_eq_ok_iff (contents : List (List ContentPart)) (es : List E) :
    embed embedImage embedText contents = .ok es ↔
      es.length = contents.length ∧ ∀ k (h₁ : k < contents.length) (h₂ : k < es.length),
        embedContent embedImage embedText k contents[k] = .ok es[k] := by
  rw [embed_eq, embedContents_eq_ok_iff]
  simp only [Nat.zero_add]

/-- **`Embed` reports the first failing content.**  An error of `Embed` is the error of some
    content `k` after every earlier content was embedded, and its text names index `k`: the part
    that failed, or that content `k` has no image or text to embed. -/
theorem embed_error_names_first_failure {contents : List (List ContentPart)} {err : String}
    (h : embed embedImage embedText contents = .error err) :
    ∃ k, ∃ hk : k < contents.length,
      (∀ j (hj : j < k), ∃ e, embedContent embedImage embedText j contents[j] = .ok e) ∧
      embedContent embedImage embedText k contents[k] = .error err ∧
      (err = "no valid content found at index " ++ toString k ∨
        ∃ cause, err = "embedding image at index " ++ toString k ++ ": " ++ cause ∨
          err = "embedding text at index " ++ toString k ++ ": " ++ cause) := by
  rw [embed_eq, embedContents_eq_error_iff] at h
  obtain ⟨k, hk, hpre, hfail⟩ := h
  simp only [Nat.zero_add] at hpre hfail
  exact ⟨k, hk, hpre, hfail, embedContent_error embedImage embedText hfail⟩

/-- A text, then a content whose one part is a PDF. -/
def pdfOnlyContents : List (List ContentPart) :=
  [[.text "a photo of a cat"], [.binary "application/pdf" [37, 80, 68, 70]]]

/-- With encoders that always succeed, the PDF is skipped and `Embed` fails at index 1. -/
theorem embed_error_pdfOnlyContents :
    embed (E := Nat) (fun _ => .ok (some 0)) (fun _ => .ok (some 1)) pdfOnlyContents =
        .error "no valid content found at index 1" ∧
      ∃ k, ∃ hk : k < pdfOnlyContents.length,
        embedContent (E := Nat) (fun _ => .ok (some 0)) (fun _ => .ok (some 1)) k pdfOnlyContents[k] =
          .error "no valid content found at index 1" :=
  have h : embed (E := Nat) (fun _ => .ok (some 0)) (fun _ => .ok (some 1)) pdfOnlyContents =
      .error "no valid content found at index 1" := rfl
  ⟨h, (embed_error_names_first_failure _ _ h).imp fun _ ⟨hk, _, hfail, _⟩ => ⟨hk, hfail⟩⟩

/-- **Only images and texts count.**  Dropping from every content the parts that are neither an
    image nor a text never changes what `Embed` returns. -/
theorem embed_filter_usable (contents : List (List ContentPart)) :
    embed embedImage embedText (contents.map (·.filter ContentPart.usable)) = embed embedImage embedText contents := by
  rw [embed_eq, embed_eq]
  suffices ∀ i, embedContents embedImage embedText i (contents.map (·.filter ContentPart.usable)) =
      embedContents embedImage embedText i contents from this 0
  induction contents with
  | nil => intro i; rfl
  | cons parts contents ih =>
    intro i
    simp only [List.map_cons, embedContents, embedContent, embedParts_filter_usable, ih]

end Embed

/-! ### Construction (`NewCLIPEmbedder`) -/

/-- `filepath.Join(dir, file)` for a clean directory path and a plain file name. -/
def joinPath (dir file : String) : String := dir ++ "/" ++ file

/-- `tokenizer.json` as `loadCLIPTokenizer` reads it. -/
inductive TokenizerFile
  /-- `os.ReadFile` fails. -/
  | unreadable (err : String)
  /-- `json.Unmarshal` fails. -/
  | malformed (err : String)
  /-- The decoded `model.vocab` and `added_tokens`. -/
  | decoded (vocab : List (String × Int)) (addedTokens : List AddedToken)
  deriving DecidableEq, Repr

/-- `loadCLIPTokenizer(modelPath)` from the reading of `tokenizer.json` on. -/
def TokenizerFile.load : TokenizerFile → Except String CLIPTokenizer
  | .unreadable err => .error ("reading tokenizer.json: " ++ err)
  | .malformed err => .error ("parsing tokenizer.json: " ++ err)
  | .decoded vocab addedTokens => .ok (loadCLIPTokenizer vocab addedTokens)

/-- What `NewCLIPEmbedder` finds in a model directory: the names `os.Stat` finds there, the two
    config files and `tokenizer.json`. -/
structure ModelDirContents where
  files : List String
  clipConfigJSON : ConfigFile
  configJSON : ConfigFile
  tokenizerJSON : TokenizerFile
  deriving DecidableEq, Repr

/-- `libafembed.EmbedderCapabilities`. -/
structure EmbedderCapabilities where
  supportedMIMETypes : List String
  dimensions : List Int
  defaultDimension : Int
  supportsFusion : Bool
  deriving DecidableEq, Repr

/-- `CLIPEmbedder`, without its logger and mutex. -/
structure CLIPEmbedder where
  visualModelPath : String
  textModelPath : String
  visualProjectionPath : String
  textProjectionPath : String
  tokenizer : CLIPTokenizer
  config : CLIPConfig
  caps : EmbedderCapabilities
  modelPath : String
  deriving DecidableEq, Repr

/-- The capabilities `NewCLIPEmbedder` advertises for a projection dimension. -/
def clipCapabilities (projectionDim : Int) : EmbedderCapabilities where
  supportedMIMETypes := ["text/plain", "image/png", "image/jpeg", "image/gif", "image/webp"]
  dimensions := [projectionDim]
  defaultDimension := projectionDim
  supportsFusion := false

/-- `NewCLIPEmbedder(modelPath, quantized, logger)`, where `initErr` is the error
    `initONNXRuntime` returns, if any: the runtime starts once per process, so every call sees the
    same one.  `loadCLIPConfig` never fails, so its error branch is never taken. -/
def newCLIPEmbedder (modelPath : String) (quantized : Bool) (initErr : Option String)
    (dir : ModelDirContents) : Except String CLIPEmbedder :=
  if modelPath = "" then .error "model path is required" else
  let config := loadCLIPConfig dir.clipConfigJSON dir.configJSON
  let visualFile := if quantized then "visual_model_quantized.onnx" else "visual_model.onnx"
  let textFile := if quantized then "text_model_quantized.onnx" else "text_model.onnx"
  let visualPath := joinPath modelPath visualFile
  let textPath := joinPath modelPath textFile
  if !dir.files.contains visualFile then .error ("visual model not found: " ++ visualPath)
  else if !dir.files.contains textFile then .error ("text model not found: " ++ textPath)
  else
    let hasProjections :=
      dir.files.contains "visual_projection.onnx" && dir.files.contains "text_projection.onnx"
    match initErr with
    | some err => .error ("initializing ONNX runtime: " ++ err)
    | none =>
      match dir.tokenizerJSON.load with
      | .error err => .error ("loading tokenizer: " ++ err)
      | .ok tokenizer => .ok
        { visualModelPath := visualPath
          textModelPath := textPath
          visualProjectionPath := if hasProjections then joinPath modelPath "visual_projection.onnx" else ""
          textProjectionPath := if hasProjections then joinPath modelPath "text_projection.onnx" else ""
          tokenizer, config, modelPath
          caps := clipCapabilities config.projectionDim }

/-- Once the model path is set and the precision's two model files are there, `NewCLIPEmbedder`
    succeeds exactly when the ONNX runtime starts and `tokenizer.json` loads. -/
theorem newCLIPEmbedder_isOk {modelPath : String} {quantized : Bool} (initErr : Option String)
    {dir : ModelDirContents} (hpath : modelPath ≠ "")
    (hvisual : dir.files.contains (if quantized then "visual_model_quantized.onnx" else "visual_model.onnx"))
    (htext : dir.files.contains (if quantized then "text_model_quantized.onnx" else "text_model.onnx")) :
    (newCLIPEmbedder modelPath quantized initErr dir).isOk =
      (initErr.isNone && dir.tokenizerJSON.load.isOk) := by
  simp only [newCLIPEmbedder, hpath, hvisual, htext, if_false, Bool.not_true, Bool.false_eq_true]
  cases initErr <;> cases dir.tokenizerJSON.load <;> rfl

/-- A loaded tokenizer has CLIP's window of 77 positions. -/
theorem TokenizerFile.load_maxLength {f : TokenizerFile} {t : CLIPTokenizer} (h : f.load = .ok t) :
    t.maxLength = 77 := by
  cases f with
  | decoded vocab addedTokens => cases h; exact loadCLIPTokenizer_maxLength vocab addedTokens
  | unreadable | malformed => cases h

/-- What a built embedder holds: the tokenizer `tokenizer.json` loads to, and the config
    `loadCLIPConfig` returns, advertised with its projection dimension. -/
theorem newCLIPEmbedder_eq_ok {modelPath : String} {quantized : Bool} {initErr : Option String}
    {dir : ModelDirContents} {emb : CLIPEmbedder} (h : newCLIPEmbedder modelPath quantized initErr dir = .ok emb) :
    dir.tokenizerJSON.load = .ok emb.tokenizer ∧ emb.config = loadCLIPConfig dir.clipConfigJSON dir.configJSON ∧
      emb.caps = clipCapabilities emb.config.projectionDim := by
  dsimp only [newCLIPEmbedder] at h
  split_ifs at h <;> revert h <;> cases initErr <;> cases dir.tokenizerJSON.load <;> intro h <;> cases h <;>
    exact ⟨rfl, rfl, rfl⟩

/-- **Every built embedder tokenizes every text into CLIP's window.**  Whatever
    `tokenizer.json` holds, an embedder `NewCLIPEmbedder` returns has a window of 77 positions, so
    for every text `Encode` returns and `embedText` hands the text session its ids and mask,
    77 of each, without a panic. -/
theorem newCLIPEmbedder_embedTextInputs (unicodeToLower : Char → Char) {modelPath : String} {quantized : Bool}
    {initErr : Option String} {dir : ModelDirContents} {emb : CLIPEmbedder}
    (h : newCLIPEmbedder modelPath quantized initErr dir = .ok emb) (text : String) :
    ∃ inputIDs attentionMask, emb.tokenizer.encode unicodeToLower text = some (inputIDs, attentionMask) ∧
      embedTextInputs unicodeToLower emb.tokenizer text = some (inputIDs, attentionMask, 77) ∧
      inputIDs.length = 77 ∧ attentionMask.length = 77 := by
  have henc := emb.tokenizer.encode_eq unicodeToLower text
    (TokenizerFile.load_maxLength (newCLIPEmbedder_eq_ok h).1) (by decide)
  obtain ⟨inputIDs, attentionMask, henc, hids, hmask⟩ : ∃ inputIDs attentionMask,
      emb.tokenizer.encode unicodeToLower text = some (inputIDs, attentionMask) ∧
        inputIDs.length = 77 ∧ attentionMask.length = 77 :=
    ⟨_, _, henc, by simp; omega, by simp; omega⟩
  exact ⟨inputIDs, attentionMask, henc, by rw [embedTextInputs_of_encode unicodeToLower henc, hids], hids, hmask⟩

/-- A model directory with both precisions and `tokenizer.json`, but neither projections nor a
    config file. -/
def bothPrecisionsDir : ModelDirContents where
  files := ["visual_model.onnx", "text_model.onnx", "visual_model_quantized.onnx",
    "text_model_quantized.onnx", "tokenizer.json"]
  clipConfigJSON := .unreadable
  configJSON := .unreadable
  tokenizerJSON := .decoded [] []

/-- Its quantized embedder builds, and tokenizes a caption into the 77 positions. -/
theorem newCLIPEmbedder_embedTextInputs_bothPrecisionsDir :
    ∃ emb, newCLIPEmbedder "models/clip" true none bothPrecisionsDir = .ok emb ∧
      ∃ inputIDs attentionMask, emb.tokenizer.encode Char.toLower "a photo" = some (inputIDs, attentionMask) ∧
        embedTextInputs Char.toLower emb.tokenizer "a photo" = some (inputIDs, attentionMask, 77) ∧
        inputIDs.length = 77 ∧ attentionMask.length = 77 :=
  have h : newCLIPEmbedder "models/clip" true none bothPrecisionsDir = .ok _ := rfl
  ⟨_, h, newCLIPEmbedder_embedTextInputs Char.toLower h "a photo"⟩

end Termite
