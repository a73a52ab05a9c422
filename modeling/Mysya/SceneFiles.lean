import Mysya.Base64
import Mysya.BattleScene
import Mysya.LittleEndian

/-!
# Scene files

`SceneManager::LoadConfig` and `LoadBlockFile`. A file is the tree that `TiXmlDocument::LoadFile`
makes of it, with each `char` as the character of its code. The dimensions of a map come from two
attributes and its blocks from the text of another element, through base 64 and `uncompress`.
-/

namespace Mysya

inductive TiXmlNode
  | element (value : List Char) (attributes : List (List Char × List Char))
      (children : List TiXmlNode)
  | text (value : List Char)
  | other (value : List Char)

structure TiXmlElement where
  attributes : List (List Char × List Char)
  children : List TiXmlNode

/-- `FirstChildElement(value)`, and then `NextSiblingElement(value)` again and again. -/
def childElements (value : List Char) (nodes : List TiXmlNode) : List TiXmlElement :=
  nodes.filterMap fun
    | .element value' attributes children =>
      if value' = value then some ⟨attributes, children⟩ else none
    | _ => none

namespace TiXmlElement

/-- `Attribute(name)`. -/
def getAttribute (e : TiXmlElement) (name : List Char) : Option (List Char) :=
  (e.attributes.find? fun entry => entry.1 == name).map Prod.snd

def getText (e : TiXmlElement) : Option (List Char) :=
  match e.children with
  | .text value :: _ => some value
  | _ => none

end TiXmlElement

def isSpace (c : Char) : Bool := c == ' ' || (9 ≤ c.toNat && c.toNat ≤ 13)

/-- What `strtol` returns, as an `int`. -/
def atoi (s : List Char) : Int :=
  let digits (s : List Char) : Int :=
    ((s.takeWhile Char.isDigit).foldl (fun n c => n * 10 + (c.toNat - 48)) 0 : Nat)
  match s.dropWhile isSpace with
  | '-' :: s => toInt32 (max (-9223372036854775808) (-digits s))
  | '+' :: s => toInt32 (min 9223372036854775807 (digits s))
  | s => toInt32 (min 9223372036854775807 (digits s))

/-- The layer of a map that `LoadBlockFile` reads, with the text of its data. -/
structure BlockLayer where
  width : Int
  height : Int
  text : Option (List Char)

/-- The loop over the layers: it ends at the first one called "path" or without a name. -/
def pathLayer : List TiXmlElement → Option TiXmlElement
  | [] => none
  | layer :: layers =>
    match layer.getAttribute "name".toList with
    | none => none
    | some name => if name = "path".toList then some layer else pathLayer layers

/-- What `LoadBlockFile` asks of the tree; every branch that returns false is `none`. -/
def blockLayer (doc : Option (List TiXmlNode)) : Option BlockLayer := do
  let nodes ← doc
  let mapNode ← (childElements "map".toList nodes).head?
  let layer ← pathLayer (childElements "layer".toList mapNode.children)
  let width ← layer.getAttribute "width".toList
  let height ← layer.getAttribute "height".toList
  let data ← (childElements "data".toList layer.children).head?
  let encoding ← data.getAttribute "encoding".toList
  if encoding ≠ "base64".toList then none
  else
    let compression ← data.getAttribute "compression".toList
    if compression ≠ "zlib".toList then none
    else some ⟨atoi width, atoi height, data.getText⟩

/-- The loop over the decompressed data: one `int` for each block. -/
def readBlocks (buffer : List UInt8) (bufferSize : Nat) : List Char :=
  (List.range ((bufferSize + 3) / 4)).map fun i =>
    if 0 < toInt32 (LittleEndian.value ((buffer.drop (4 * i)).take 4)) then '0' else '1'

/-- `uncompress` into a buffer of the size given: what the buffer holds then and the length it sets,
where it returns `Z_OK`. -/
abbrev Uncompress := List UInt8 → Nat → Option (List UInt8 × Nat)

namespace BlockLayer

/-- The characters of the text that `base64_decode` gets; `attr_size` is an `int`. -/
def decoded (text : List Char) : List UInt8 :=
  Base64.base64DecodeString
    ((text.take (toInt32 text.length).toNat).map fun c => UInt8.ofNat c.toNat)

/-- `conf.width_ * conf.height_ * 4` in `int`. -/
def bufferSize (layer : BlockLayer) : Int := toInt32 (layer.width * layer.height * 4)

end BlockLayer

structure SceneManager where
  sceneConfs : Int → Option SceneConf

namespace SceneManager

/-- `scene_confs_.insert`, which leaves an entry that is there. -/
def insertConf (s : SceneManager) (mapId : Int) (conf : SceneConf) : SceneManager :=
  match s.sceneConfs mapId with
  | some _ => s
  | none => { s with sceneConfs := Function.update s.sceneConfs mapId (some conf) }

/-- `LoadBlockFile`. It does not return where the text is null or a size is negative: `strlen` reads
through a null pointer, and a `std::vector` of such a size throws. -/
def loadBlockFile (uncompress : Uncompress) (s : SceneManager) (mapId : Int)
    (doc : Option (List TiXmlNode)) : Option (SceneManager × Bool) :=
  match blockLayer doc with
  | none => some (s, false)
  | some layer =>
    match layer.text with
    | none => none
    | some text =>
      if toInt32 text.length < 0 ∨ layer.bufferSize < 0 then none
      else
        match uncompress (BlockLayer.decoded text) layer.bufferSize.toNat with
        | none => some (s, false)
        | some (buffer, size) =>
          some (s.insertConf mapId ⟨layer.height, layer.width, readBlocks buffer size⟩, true)

/-- The fields of a row, with the map id and the file name so far. -/
def rowFields (confPath : List Char) :
    List TiXmlElement → Int × List Char → Option (Int × List Char)
  | [], row => some row
  | field :: fields, (mapId, file) =>
    match field.getAttribute "name".toList, field.getText with
    | some name, some text =>
      if name = "id".toList then rowFields confPath fields (atoi text, file)
      else if name = "tilemap".toList then
        rowFields confPath fields (mapId, confPath ++ text ++ ".tmx".toList)
      else rowFields confPath fields (mapId, file)
    | _, _ => none

/-- The loop over the rows; `files` is what `LoadFile` makes of a file. -/
def loadRows (uncompress : Uncompress) (files : List Char → Option (List TiXmlNode))
    (confPath : List Char) : List TiXmlElement → SceneManager → Option (SceneManager × Bool)
  | [], s => some (s, true)
  | row :: rows, s =>
    match rowFields confPath (childElements "field".toList row.children) (0, []) with
    | none => some (s, false)
    | some (mapId, file) =>
      match s.loadBlockFile uncompress mapId (files file) with
      | none => none
      | some (s, false) => some (s, false)
      | some (s, true) => loadRows uncompress files confPath rows s

def loadConfig (uncompress : Uncompress) (files : List Char → Option (List TiXmlNode))
    (confPath : List Char) (s : SceneManager) (file : List Char) : Option (SceneManager × Bool) :=
  match (files file).bind fun nodes =>
    (childElements "resultset".toList nodes).head? with
  | none => some (s, false)
  | some resultset =>
    loadRows uncompress files confPath (childElements "row".toList resultset.children) s

end SceneManager

end Mysya
