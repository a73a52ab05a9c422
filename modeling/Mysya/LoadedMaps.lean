import Mysya.SceneFiles

/-!
# Loaded maps

`LoadBlockFile` takes what `uncompress` leaves, however much it is, for the blocks of a map of the
dimensions that the file states. They match where the data inflates to as many cells.
-/

namespace Mysya

namespace SceneConf

variable {conf : SceneConf}

structure Matches (conf : SceneConf) : Prop where
  width : 1 ≤ conf.width
  height : 1 ≤ conf.height
  blocks : (conf.blocks.length : Int) = conf.width * conf.height

/-- `Scene::Allocate` reads no block beyond the last, and `GetGrid` finds no grid beyond it. -/
structure Indexes (conf : SceneConf) : Prop where
  nodes : conf.cells ≤ conf.blocks.length
  grids : ∀ (s : BattleScene) (mapId : Int) (pos : Position) (i : Nat),
    (s.allocate mapId (some conf)).getGrid pos = some i → i < conf.blocks.length

/-- A position of the map is one of its cells. -/
theorem Matches.index_lt (h : conf.Matches) {x y : Int} (hx : 0 ≤ x ∧ x < conf.width)
    (hy : 0 ≤ y ∧ y < conf.height) :
    0 ≤ y * conf.width + x ∧ y * conf.width + x < conf.blocks.length := by
  have hrow : 0 ≤ y * conf.width := Int.mul_nonneg hy.1 (Int.le_trans hx.1 (Int.le_of_lt hx.2))
  have hlast : (y + 1) * conf.width ≤ conf.height * conf.width :=
    Int.mul_le_mul_of_nonneg_right hy.2 (Int.le_trans hx.1 (Int.le_of_lt hx.2))
  rw [h.blocks, Int.mul_comm conf.width]
  rw [Int.add_mul, Int.one_mul] at hlast
  omega

theorem Matches.indexes (h : conf.Matches) : conf.Indexes where
  nodes := by
    have hwidth := h.width
    have hheight := h.height
    have hcells : (conf.cells : Int) = conf.height * conf.width := by
      rw [cells, Int.natCast_mul, Int.toNat_of_nonneg (by omega), Int.toNat_of_nonneg (by omega)]
    have hblocks := h.blocks
    rw [Int.mul_comm] at hblocks
    omega
  grids := fun s mapId pos i hgrid => by
    rw [BattleScene.getGrid] at hgrid
    split at hgrid
    · rename_i hin
      have hgrid' : (pos.y * conf.width + pos.x).toNat = i := Option.some.inj hgrid
      rw [Scene.inMap] at hin
      obtain ⟨hx, hwidth, hy⟩ := of_decide_eq_true hin
      have hindex := h.index_lt ⟨hx, hwidth⟩ hy
      omega
    · cases hgrid

end SceneConf

theorem length_readBlocks (buffer : List UInt8) (bufferSize : Nat) :
    (readBlocks buffer bufferSize).length = (bufferSize + 3) / 4 := by
  rw [readBlocks, List.length_map, List.length_range]

/-- The map has a cell, and the data inflates to four bytes for each (the last one is read in full
where up to three of its bytes are missing). -/
def Fills (uncompress : Uncompress) (doc : Option (List TiXmlNode)) : Prop :=
  ∃ layer text buffer size, blockLayer doc = some layer ∧ layer.text = some text ∧
    uncompress (BlockLayer.decoded text) layer.bufferSize.toNat = some (buffer, size) ∧
    1 ≤ layer.width ∧ 1 ≤ layer.height ∧ layer.width * layer.height * 4 ≤ size + 3 ∧
    (size : Int) ≤ layer.width * layer.height * 4

namespace SceneManager

variable {uncompress : Uncompress} {s s' : SceneManager} {mapId : Int}
  {doc : Option (List TiXmlNode)} {ok : Bool}

theorem loadBlockFile_cases (h : s.loadBlockFile uncompress mapId doc = some (s', ok)) :
    (ok = false ∧ s' = s) ∨ (ok = true ∧ ∃ layer text buffer size, blockLayer doc = some layer ∧
      layer.text = some text ∧
      uncompress (BlockLayer.decoded text) layer.bufferSize.toNat = some (buffer, size) ∧
      s' = s.insertConf mapId ⟨layer.height, layer.width, readBlocks buffer size⟩) := by
  rw [loadBlockFile] at h
  split at h
  · rw [Option.some.injEq, Prod.mk.injEq] at h
    exact .inl ⟨h.2.symm, h.1.symm⟩
  · rename_i layer hlayer
    split at h
    · cases h
    · rename_i text htext
      split at h
      · cases h
      · split at h
        · rw [Option.some.injEq, Prod.mk.injEq] at h
          exact .inl ⟨h.2.symm, h.1.symm⟩
        · rename_i buffer size hinflate
          rw [Option.some.injEq, Prod.mk.injEq] at h
          exact .inr ⟨h.2.symm, layer, text, buffer, size, hlayer, htext, hinflate, h.1.symm⟩

theorem readBlocks_matches_iff (layer : BlockLayer) (buffer : List UInt8) (size : Nat) :
    (⟨layer.height, layer.width, readBlocks buffer size⟩ : SceneConf).Matches ↔
      1 ≤ layer.width ∧ 1 ≤ layer.height ∧ layer.width * layer.height * 4 ≤ size + 3 ∧
        (size : Int) ≤ layer.width * layer.height * 4 := by
  have hlength := length_readBlocks buffer size
  constructor
  · rintro ⟨hwidth, hheight, hblocks⟩
    dsimp only at hwidth hheight hblocks
    refine ⟨hwidth, hheight, ?_⟩
    omega
  · rintro ⟨hwidth, hheight, hlow, hhigh⟩
    refine ⟨hwidth, hheight, ?_⟩
    dsimp only
    omega

theorem fills_iff {layer : BlockLayer} {text : List Char} {buffer : List UInt8} {size : Nat}
    (hlayer : blockLayer doc = some layer) (htext : layer.text = some text)
    (hinflate : uncompress (BlockLayer.decoded text) layer.bufferSize.toNat = some (buffer, size)) :
    Fills uncompress doc ↔
      (⟨layer.height, layer.width, readBlocks buffer size⟩ : SceneConf).Matches := by
  rw [readBlocks_matches_iff]
  constructor
  · rintro ⟨layer', text', buffer', size', hlayer', htext', hinflate', hfills⟩
    rw [hlayer, Option.some.injEq] at hlayer'
    subst hlayer'
    rw [htext, Option.some.injEq] at htext'
    subst htext'
    rw [hinflate, Option.some.injEq, Prod.mk.injEq] at hinflate'
    rw [hinflate'.2]
    exact hfills
  · intro hfills
    exact ⟨layer, text, buffer, size, hlayer, htext, hinflate, hfills⟩

/-- A file that fills its map leaves every stored map with blocks for its cells. -/
theorem loadBlockFile_matches (hfills : blockLayer doc ≠ none → Fills uncompress doc)
    (hloaded : ∀ mapId conf, s.sceneConfs mapId = some conf → conf.Matches)
    (h : s.loadBlockFile uncompress mapId doc = some (s', ok)) :
    ∀ mapId conf, s'.sceneConfs mapId = some conf → conf.Matches := by
  obtain ⟨_, rfl⟩ | ⟨_, layer, text, buffer, size, hlayer, htext, hinflate, rfl⟩ :=
    loadBlockFile_cases h
  · exact hloaded
  rw [insertConf]
  split
  · exact hloaded
  · intro id conf hconf
    dsimp only at hconf
    rw [Function.update_apply] at hconf
    split at hconf
    · rw [← Option.some.inj hconf]
      have hread : blockLayer doc ≠ none := hlayer ▸ Option.some_ne_none layer
      exact (fills_iff hlayer htext hinflate).mp (hfills hread)
    · exact hloaded id conf hconf

/-- Where every map file fills its map, the stored maps match after any number of rows. -/
theorem loadRows_matches {files : List Char → Option (List TiXmlNode)} {confPath : List Char}
    (hfiles : ∀ file, blockLayer (files file) ≠ none → Fills uncompress (files file))
    (rows : List TiXmlElement)
    (hloaded : ∀ mapId conf, s.sceneConfs mapId = some conf → conf.Matches)
    (h : s.loadRows uncompress files confPath rows = some (s', ok)) :
    ∀ mapId conf, s'.sceneConfs mapId = some conf → conf.Matches := by
  induction rows generalizing s with
  | nil =>
    rw [loadRows, Option.some.injEq, Prod.mk.injEq] at h
    rw [← h.1]
    exact hloaded
  | cons row rows ih =>
    rw [loadRows] at h
    split at h
    · rw [Option.some.injEq, Prod.mk.injEq] at h
      rw [← h.1]
      exact hloaded
    · rename_i mapId file _
      split at h
      · cases h
      · rename_i s₁ hfile
        rw [Option.some.injEq, Prod.mk.injEq] at h
        rw [← h.1]
        exact loadBlockFile_matches (hfiles file) hloaded hfile
      · rename_i s₁ hfile
        exact ih (loadBlockFile_matches (hfiles file) hloaded hfile) h

theorem loadConfig_indexes {files : List Char → Option (List TiXmlNode)}
    {confPath file : List Char}
    (hfiles : ∀ file, blockLayer (files file) ≠ none → Fills uncompress (files file))
    (hloaded : ∀ mapId conf, s.sceneConfs mapId = some conf → conf.Matches)
    (h : s.loadConfig uncompress files confPath file = some (s', ok)) :
    ∀ mapId conf, s'.sceneConfs mapId = some conf → conf.Indexes := by
  intro mapId conf hconf
  rw [loadConfig] at h
  split at h
  · rw [Option.some.injEq, Prod.mk.injEq] at h
    rw [← h.1] at hconf
    exact (hloaded mapId conf hconf).indexes
  · exact (loadRows_matches hfiles _ hloaded h mapId conf hconf).indexes

/-- What is stored after a file was accepted matches its dimensions if and only if what was stored
before does or, where there was nothing, the file fills its map. -/
theorem loaded_matches_iff (h : s.loadBlockFile uncompress mapId doc = some (s', true)) :
    (∃ conf, s'.sceneConfs mapId = some conf ∧ conf.Matches ∧ conf.Indexes) ↔
      (∃ conf, s.sceneConfs mapId = some conf ∧ conf.Matches) ∨
        s.sceneConfs mapId = none ∧ Fills uncompress doc := by
  obtain ⟨hfalse, _⟩ | ⟨_, layer, text, buffer, size, hlayer, htext, hinflate, rfl⟩ :=
    loadBlockFile_cases h
  · cases hfalse
  cases hold : s.sceneConfs mapId with
  | some conf =>
    rw [insertConf, hold]
    constructor
    · rintro ⟨conf', hconf', hmatches, _⟩
      rw [hold] at hconf'
      exact .inl ⟨conf', hconf', hmatches⟩
    · rintro (⟨conf', hconf', hmatches⟩ | ⟨hnone, _⟩)
      · exact ⟨conf', hold.trans hconf', hmatches, hmatches.indexes⟩
      · cases hnone
  | none =>
    rw [insertConf, hold]
    dsimp only
    rw [Function.update_self]
    rw [fills_iff hlayer htext hinflate]
    constructor
    · rintro ⟨conf, hconf, hmatches, _⟩
      rw [Option.some.injEq] at hconf
      rw [← hconf] at hmatches
      exact .inr ⟨rfl, hmatches⟩
    · rintro (⟨conf, hnone, _⟩ | ⟨_, hmatches⟩)
      · cases hnone
      · exact ⟨_, rfl, hmatches, hmatches.indexes⟩

def adler32 (data : List UInt8) : Nat :=
  let sums : Nat × Nat := data.foldl
    (fun sums byte => ((sums.1 + byte.toNat) % 65521, (sums.2 + sums.1 + byte.toNat) % 65521))
    (1, 0)
  sums.2 * 65536 + sums.1

/-- `uncompress` on a stream of one stored block, which is not compressed. -/
def inflateStored : Uncompress := fun src n =>
  match src with
  | 120 :: 1 :: 1 :: len₀ :: len₁ :: nlen₀ :: nlen₁ :: rest =>
    if LittleEndian.value [nlen₀, nlen₁] = 65535 - LittleEndian.value [len₀, len₁] ∧
        LittleEndian.value [len₀, len₁] + 4 ≤ rest.length ∧
        LittleEndian.value [len₀, len₁] ≤ n ∧
        LittleEndian.value ((rest.drop (LittleEndian.value [len₀, len₁])).take 4).reverse =
          adler32 (rest.take (LittleEndian.value [len₀, len₁])) then
      some (rest.take (LittleEndian.value [len₀, len₁]) ++
        List.replicate (n - LittleEndian.value [len₀, len₁]) 0, LittleEndian.value [len₀, len₁])
    else none
  | _ => none

/-- The tree of a file with one layer, two wide and one high. -/
def twoByOne (data : String) : Option (List TiXmlNode) :=
  some [.element "map".toList [] [.element "layer".toList
    [("name".toList, "path".toList), ("width".toList, "2".toList), ("height".toList, "1".toList)]
    [.element "data".toList
      [("encoding".toList, "base64".toList), ("compression".toList, "zlib".toList)]
      [.text data.toList]]]]

theorem loaded_matches_iff_two :
    (∃ conf, ((⟨fun _ => none⟩ : SceneManager).insertConf 1 ⟨1, 2, ['0', '1']⟩).sceneConfs 1 =
        some conf ∧ conf.Matches ∧ conf.Indexes) ↔
      (∃ conf, (⟨fun _ => none⟩ : SceneManager).sceneConfs 1 = some conf ∧ conf.Matches) ∨
        (⟨fun _ => none⟩ : SceneManager).sceneConfs 1 = none ∧
          Fills inflateStored (twoByOne "eAEBCAD3/wEAAAAAAAAAABAAAg==") := by
  apply loaded_matches_iff
  rfl

/-- Data for one of two cells is taken for a map. -/
theorem block_missing :
    ¬ ∀ (uncompress : Uncompress),
      (∀ src n buffer size, uncompress src n = some (buffer, size) → size ≤ n) →
      ∀ (s : SceneManager) (mapId : Int) (doc : Option (List TiXmlNode)) (s' : SceneManager),
        s.loadBlockFile uncompress mapId doc = some (s', true) →
        ∃ conf, s'.sceneConfs mapId = some conf ∧ conf.Matches ∧ conf.Indexes := by
  intro hall
  have hbound : ∀ src n buffer size, inflateStored src n = some (buffer, size) → size ≤ n := by
    intro src n buffer size h
    unfold inflateStored at h
    split at h
    · split at h
      · rename_i hstream
        rw [Option.some.injEq, Prod.mk.injEq] at h
        rw [← h.2]
        exact hstream.2.2.1
      · cases h
    · cases h
  obtain ⟨conf, hconf, hmatches, _⟩ := hall inflateStored hbound ⟨fun _ => none⟩ 1
    (twoByOne "eAEBBAD7/wEAAAAACAAC")
    ((⟨fun _ => none⟩ : SceneManager).insertConf 1 ⟨1, 2, ['0']⟩) rfl
  obtain rfl : (⟨1, 2, ['0']⟩ : SceneConf) = conf := Option.some.inj hconf
  exact absurd hmatches.blocks (by decide)

end SceneManager

end Mysya
