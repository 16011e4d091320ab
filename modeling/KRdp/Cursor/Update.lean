/-
Cursor updates and the pointer messages they send.

`cursorCache` is a hash table, so the order in which it is searched is
arbitrary and may differ between calls; each call receives that order as an
argument.  `lastUsedCursor` points to an entry of the table and is kept as the
key of that entry.
-/

import KRdp.Qt.Image
import KRdp.RdpConnection.State
import Mathlib.Data.List.AList

namespace KRdp

namespace Cursor

structure CursorUpdate (Image : Type) where
  hotspot : QPoint
  image : Image
  cacheId : UInt32 := 0
  lastUsed : Int := 0
  deriving DecidableEq, Repr

inductive CursorType where
  | hidden
  | systemDefault
  | image
  deriving DecidableEq, Repr

/-! ### Pointer messages -/

inductive SystemPointer where
  | null
  | default
  deriving DecidableEq, Repr

structure PointerColorUpdate where
  cacheIndex : UInt16
  hotSpotX : UInt16
  hotSpotY : UInt16
  width : UInt16
  height : UInt16
  lengthAndMask : UInt16
  lengthXorMask : UInt16
  xorMaskData : List UInt8
  deriving DecidableEq, Repr

structure PointerNewUpdate where
  xorBpp : UInt16
  colorPtrAttr : PointerColorUpdate
  deriving DecidableEq, Repr

structure PointerLargeUpdate where
  xorBpp : UInt16
  cacheIndex : UInt16
  hotSpotX : UInt16
  hotSpotY : UInt16
  width : UInt16
  height : UInt16
  lengthAndMask : UInt32
  lengthXorMask : UInt32
  xorMaskData : List UInt8
  deriving DecidableEq, Repr

inductive PointerPdu where
  | pointerSystem (type : SystemPointer)
  | pointerNew (update : PointerNewUpdate)
  | pointerLarge (update : PointerLargeUpdate)
  | pointerCached (cacheIndex : UInt32)
  deriving DecidableEq, Repr

/-! ### State -/

abbrev CursorCache (Image : Type) : Type := AList fun _ : UInt32 => CursorUpdate Image

abbrev CacheEntry (Image : Type) : Type := Sigma fun _ : UInt32 => CursorUpdate Image

/-- The order in which a hash table lists its entries. -/
structure HashOrder (Image : Type) where
  entries : CursorCache Image → List (CacheEntry Image)
  perm : ∀ cursorCache, (entries cursorCache).Perm cursorCache.entries

structure Private (Image : Type) where
  cursorType : CursorType := .systemDefault
  lastUsedCursor : Option UInt32 := none
  cursorCache : CursorCache Image := ∅
  sent : List PointerPdu := []

structure Session where
  state : RdpConnection.State
  pointerCacheSize : UInt32
  deriving DecidableEq, Repr

variable {Image : Type}

def CursorCache.size (cursorCache : CursorCache Image) : Nat := cursorCache.keys.length

def send (pdu : PointerPdu) (d : Private Image) : Private Image :=
  { d with sent := d.sent ++ [pdu] }

/-- `*lastUsedCursor`. -/
def Private.lastUsed (d : Private Image) : Option (CursorUpdate Image) :=
  d.lastUsedCursor.bind fun key => d.cursorCache.lookup key

/-! ### Update -/

section Compare

variable [DecidableEq Image]

/-- `CursorUpdate::operator==`. -/
def CursorUpdate.same (first second : CursorUpdate Image) : Bool :=
  first.hotspot == second.hotspot && first.image == second.image

def findCached (order : HashOrder Image) (update : CursorUpdate Image)
    (cursorCache : CursorCache Image) : Option (CacheEntry Image) :=
  (order.entries cursorCache).find? fun entry => update.same entry.2

end Compare

/-- The first of the least recently used entries. -/
def minElement : List (CacheEntry Image) → Option (CacheEntry Image)
  | [] => none
  | first :: rest =>
      some <| rest.foldl
        (fun smallest entry =>
          if entry.2.lastUsed < smallest.2.lastUsed then entry else smallest)
        first

def setCursorType (type : CursorType) (d : Private Image) : Private Image :=
  if d.cursorType = type then d
  else if type = .image then { d with cursorType := type }
  else
    send (.pointerSystem (if type = .hidden then .null else .default))
      { d with
        cursorType := type
        lastUsedCursor := none }

def touch (key : UInt32) (entry : CursorUpdate Image) (now : Int)
    (d : Private Image) : Private Image :=
  { d with cursorCache := d.cursorCache.insert key { entry with lastUsed := now } }

def showCached (key : UInt32) (entry : CursorUpdate Image) (now : Int)
    (d : Private Image) : Private Image :=
  send (.pointerCached entry.cacheId) (touch key entry now { d with lastUsedCursor := some key })

/-- The id for a new cursor, and the cache after the eviction that a full cache
needs. -/
def allocate (session : Session) (order : HashOrder Image) (cursorCache : CursorCache Image) :
    UInt32 × CursorCache Image :=
  if session.pointerCacheSize.toNat ≤ cursorCache.size then
    match minElement (order.entries cursorCache) with
    -- Only a cache size of zero gets here; capability negotiation rejects it.
    | none => (UInt32.ofNat cursorCache.size, cursorCache)
    | some lru => (lru.2.cacheId, cursorCache.erase lru.1)
  else (UInt32.ofNat cursorCache.size, cursorCache)

section Shape

variable [QImage Image]

def createXorMask (image : Image) : List UInt8 :=
  (QImage.convertToArgb32 image).mirrored.rgbSwapped.bits

def pointerNew (newCursor : CursorUpdate Image) : PointerPdu :=
  let xorMask := createXorMask newCursor.image
  .pointerNew
    { xorBpp := 32
      colorPtrAttr :=
        { cacheIndex := newCursor.cacheId.toUInt16
          hotSpotX := newCursor.hotspot.x.toUInt32.toUInt16
          hotSpotY := newCursor.hotspot.y.toUInt32.toUInt16
          width := (QImage.width newCursor.image).toUInt32.toUInt16
          height := (QImage.height newCursor.image).toUInt32.toUInt16
          lengthAndMask := 0
          lengthXorMask := UInt16.ofNat xorMask.length
          xorMaskData := xorMask } }

def pointerLarge (newCursor : CursorUpdate Image) : PointerPdu :=
  let xorMask := createXorMask newCursor.image
  .pointerLarge
    { xorBpp := 32
      cacheIndex := newCursor.cacheId.toUInt16
      hotSpotX := newCursor.hotspot.x.toUInt32.toUInt16
      hotSpotY := newCursor.hotspot.y.toUInt32.toUInt16
      width := (QImage.width newCursor.image).toUInt32.toUInt16
      height := (QImage.height newCursor.image).toUInt32.toUInt16
      lengthAndMask := 0
      lengthXorMask := UInt32.ofNat xorMask.length
      xorMaskData := xorMask }

def pointerImage (newCursor : CursorUpdate Image) : PointerPdu :=
  if QImage.width newCursor.image < 96 ∧ QImage.height newCursor.image < 96 then
    pointerNew newCursor
  else pointerLarge newCursor

def showNew (newCursor : CursorUpdate Image) (cursorCache : CursorCache Image)
    (d : Private Image) : Private Image :=
  { send (.pointerCached newCursor.cacheId) (send (pointerImage newCursor) d) with
    cursorCache := cursorCache.insert newCursor.cacheId newCursor
    lastUsedCursor := some newCursor.cacheId }

def oversized (image : Image) : Prop := 384 < QImage.width image ∨ 384 < QImage.height image

instance (image : Image) : Decidable (oversized image) := inferInstanceAs (Decidable (_ ∨ _))

variable [DecidableEq Image]

def showOther (session : Session) (order : HashOrder Image) (now : Int)
    (update : CursorUpdate Image) (d : Private Image) : Private Image :=
  match findCached order update d.cursorCache with
  | some entry => showCached entry.1 entry.2 now d
  | none =>
      let (cacheId, cursorCache) := allocate session order d.cursorCache
      showNew
        { hotspot := update.hotspot
          image := update.image
          cacheId := cacheId
          lastUsed := now }
        cursorCache d

def showImage (session : Session) (order : HashOrder Image) (now : Int)
    (update : CursorUpdate Image) (d : Private Image) : Private Image :=
  match d.lastUsedCursor, d.lastUsed with
  | some key, some entry =>
      if entry.same update then touch key entry now d
      else showOther session order now update d
  | _, _ => showOther session order now update d

def update (session : Session) (order : HashOrder Image) (now : Int)
    (update : CursorUpdate Image) (d : Private Image) : Private Image :=
  if session.state ≠ .streaming then d
  else if QImage.isNull update.image then d
  else if oversized update.image then setCursorType .systemDefault d
  else showImage session order now update (setCursorType .image d)

end Shape

end Cursor

end KRdp
