/-
The file that FreeRDP authenticates against.

A line of the file is the name of a user, two empty fields and the hash of the
password in hexadecimal, each followed by a colon.  The name is written as it is, and
a surrogate without its partner becomes a question mark, so the file reads back as the
list of users exactly when no name contains a colon, a newline or such a surrogate.
-/

import KRdp.Library.MachineInt
import KRdp.Library.Pieces
import KRdp.Qt.Text
import KRdp.RdpConnection.PostConnect

namespace KRdp

namespace RdpConnection

open Clipboard (QString QByteArray)
open MachineInt (exists_ofNat)

/-! ### Writing -/

def colon : UInt16 := 0x3A

def newline : UInt16 := 0x0A

def threeColons : QString := [colon, colon, colon]

/-- `QString::arg` with base 16, padded with zeros to two digits. -/
def argHex (value : UInt8) : QString :=
  ((Nat.toDigits 16 value.toNat).leftpad 2 '0').map fun digit => .ofNat digit.toNat

/-- FreeRDP's `NTOWFv1A` hashes the bytes of a password. -/
abbrev Ntowf : Type := QByteArray → Vector UInt8 16

def passwordHash (ntowfV1A : Ntowf) (user : User) : List UInt8 :=
  (ntowfV1A (toUtf8 user.password)).toList

def samEntry (ntowfV1A : Ntowf) (user : User) : QString :=
  user.name ++ threeColons ++ (passwordHash ntowfV1A user).flatMap argHex ++ threeColons ++
    [newline]

/-- The bytes that are written, or nothing if the temporary file does not open. -/
def createSamFile (opens : Bool) (ntowfV1A : Ntowf) (users : List User) : Option QByteArray :=
  if !opens then none else some (toUtf8 (users.flatMap (samEntry ntowfV1A)))

/-! ### Reading -/

structure SamRecord where
  user : Option QByteArray
  ntHash : Option QByteArray
  deriving DecidableEq, Repr

/-- The fields of a line are the user, the domain, the LM hash, the NT hash and
more. -/
def readRecord (line : QByteArray) : SamRecord :=
  { user := (line.splitOn 0x3A)[0]?
    ntHash := (line.splitOn 0x3A)[3]? }

def readSam (file : QByteArray) : List SamRecord := (Pieces.ended 0x0A file).map readRecord

def hexDigit (number : UInt8) : UInt8 := if number < 10 then 0x30 + number else 0x57 + number

/-- Two lower-case digits for every byte. -/
def hexForm (hash : List UInt8) : QByteArray :=
  hash.flatMap fun byte => [hexDigit (byte / 16), hexDigit (byte % 16)]

/-- The record is for the user: its first field is the UTF-8 of the characters of the
name, and its fourth the hash of the password. -/
structure SamRecord.IsFor (ntowfV1A : Ntowf) (user : User) (record : SamRecord) : Prop where
  name : ∃ characters, user.name = Utf16.encode characters ∧
    record.user = some (characters.flatMap String.utf8EncodeChar)
  ntHash : record.ntHash = some (hexForm (passwordHash ntowfV1A user))

/-- A name that a line of the file can have; the last field says that every surrogate
of the name has its partner. -/
structure PlainName (name : QString) : Prop where
  colon : colon ∉ name
  newline : newline ∉ name
  paired : none ∉ Utf16.decode name

/-! ### Digits -/

theorem colon_ascii : IsAscii colon := by decide

theorem newline_ascii : IsAscii newline := by decide

theorem argHex_ascii (value : UInt8) : ∀ unit ∈ argHex value, IsAscii unit := by
  have all : ∀ number < 256, (argHex (.ofNat number)).all (fun unit => IsAscii unit) = true := by
    decide +kernel
  obtain ⟨number, bound, rfl⟩ := exists_ofNat value
  intro unit member
  exact of_decide_eq_true (List.all_eq_true.mp (all number bound) unit member)

theorem argHex_bytes (value : UInt8) :
    (argHex value).map UInt16.toUInt8 = [hexDigit (value / 16), hexDigit (value % 16)] := by
  have all : ∀ number < 256, (argHex (.ofNat number)).map UInt16.toUInt8 =
      [hexDigit (.ofNat number / 16), hexDigit (.ofNat number % 16)] := by
    decide +kernel
  obtain ⟨number, bound, rfl⟩ := exists_ofNat value
  exact all number bound

theorem hexDigits_clean (value : UInt8) :
    0x3A ∉ [hexDigit (value / 16), hexDigit (value % 16)] ∧
      0x0A ∉ [hexDigit (value / 16), hexDigit (value % 16)] := by
  have all : ∀ number < 256,
      0x3A ∉ [hexDigit (.ofNat number / 16), hexDigit (.ofNat number % 16)] ∧
        0x0A ∉ [hexDigit (.ofNat number / 16), hexDigit (.ofNat number % 16)] := by
    decide +kernel
  obtain ⟨number, bound, rfl⟩ := exists_ofNat value
  exact all number bound

theorem hexForm_clean (hash : List UInt8) : 0x3A ∉ hexForm hash ∧ 0x0A ∉ hexForm hash := by
  constructor
  · intro member
    obtain ⟨value, _, digit⟩ := List.mem_flatMap.mp member
    exact (hexDigits_clean value).1 digit
  · intro member
    obtain ⟨value, _, digit⟩ := List.mem_flatMap.mp member
    exact (hexDigits_clean value).2 digit

theorem hexForm_length (ntowfV1A : Ntowf) (user : User) :
    (hexForm (passwordHash ntowfV1A user)).length = 32 := by
  rw [hexForm, List.length_flatMap]
  simp [passwordHash]

/-! ### The bytes of the file -/

def threeColonBytes : QByteArray := [0x3A, 0x3A, 0x3A]

/-- The line of a user, without the newline. -/
def samLine (ntowfV1A : Ntowf) (user : User) : QByteArray :=
  toUtf8 user.name ++ threeColonBytes ++ hexForm (passwordHash ntowfV1A user) ++ threeColonBytes

theorem hexDigits_bytes (hash : List UInt8) :
    (hash.flatMap argHex).map UInt16.toUInt8 = hexForm hash := by
  rw [List.map_flatMap]
  exact List.flatMap_congr fun value _ => argHex_bytes value

theorem samEntry_append (ntowfV1A : Ntowf) (user : User) (rest : QString) :
    toUtf8 (samEntry ntowfV1A user ++ rest) = samLine ntowfV1A user ++ 0x0A :: toUtf8 rest := by
  have colons : ∀ unit ∈ threeColons, IsAscii unit := by
    intro unit member
    have same : unit = colon := by simpa [threeColons] using member
    rw [same]
    exact colon_ascii
  have digits : ∀ unit ∈ (passwordHash ntowfV1A user).flatMap argHex, IsAscii unit := by
    intro unit member
    obtain ⟨value, _, digit⟩ := List.mem_flatMap.mp member
    exact argHex_ascii value unit digit
  rw [samEntry, List.append_assoc _ [newline], List.singleton_append,
    toUtf8_append_cons newline_ascii, toUtf8_append_ascii colons, toUtf8_append_ascii digits,
    toUtf8_append_ascii colons, hexDigits_bytes]
  rfl

/-- The file is the lines of the users, each ended by a newline. -/
theorem createSamFile_eq (ntowfV1A : Ntowf) (users : List User) :
    createSamFile true ntowfV1A users =
      some (Pieces.terminated 0x0A (users.map (samLine ntowfV1A))) := by
  rw [createSamFile, Bool.not_true, if_neg Bool.false_ne_true, Option.some_inj]
  induction users with
  | nil => rfl
  | cons user rest ih =>
      rw [List.flatMap_cons, samEntry_append, ih, List.map_cons, Pieces.terminated,
        Pieces.terminated, List.flatMap_cons, List.append_assoc]
      rfl

/-! ### One line -/

theorem samLine_eq (ntowfV1A : Ntowf) (user : User) :
    samLine ntowfV1A user =
      toUtf8 user.name ++ 0x3A :: ([] ++ 0x3A :: ([] ++ 0x3A ::
        (hexForm (passwordHash ntowfV1A user) ++ 0x3A :: [0x3A, 0x3A]))) := by
  simp [samLine, threeColonBytes]

theorem newline_mem_samLine_iff (ntowfV1A : Ntowf) (user : User) :
    0x0A ∈ samLine ntowfV1A user ↔ newline ∈ user.name := by
  have name : 0x0A ∈ toUtf8 user.name ↔ newline ∈ user.name :=
    mem_toUtf8_iff newline_ascii (by decide) user.name
  rw [← name, samLine_eq]
  simp [(hexForm_clean (passwordHash ntowfV1A user)).2]

theorem colon_mem_name_iff (user : User) : 0x3A ∈ toUtf8 user.name ↔ colon ∈ user.name :=
  mem_toUtf8_iff colon_ascii (by decide) user.name

theorem fields_samLine (ntowfV1A : Ntowf) (user : User) :
    (samLine ntowfV1A user).splitOn 0x3A =
      (toUtf8 user.name).splitOn 0x3A ++
        [[], [], hexForm (passwordHash ntowfV1A user), [], [], []] := by
  rw [samLine_eq, Pieces.splitOn_append_cons, Pieces.splitOn_append_cons,
    Pieces.splitOn_append_cons, Pieces.splitOn_append_cons,
    Pieces.splitOn_of_not_mem (hexForm_clean _).1]
  rfl

theorem readRecord_samLine (ntowfV1A : Ntowf) {user : User} (absent : colon ∉ user.name) :
    readRecord (samLine ntowfV1A user) =
      { user := some (toUtf8 user.name)
        ntHash := some (hexForm (passwordHash ntowfV1A user)) } := by
  rw [← colon_mem_name_iff] at absent
  rw [readRecord, fields_samLine, Pieces.splitOn_of_not_mem absent]
  rfl

/-- The first field of a line is the whole name only where it has no colon. -/
theorem colon_not_mem_of_user (ntowfV1A : Ntowf) {user : User}
    (whole : (readRecord (samLine ntowfV1A user)).user = some (toUtf8 user.name)) :
    colon ∉ user.name := by
  have nonempty := Pieces.length_splitOn_pos 0x3A (toUtf8 user.name)
  rw [readRecord, fields_samLine, List.getElem?_append_left nonempty,
    ← List.head?_eq_getElem?] at whole
  rw [← colon_mem_name_iff]
  exact Pieces.head?_splitOn_eq_iff.mp whole

/-- A line reads back as a record for its user exactly when the name has no colon and
consists of characters. -/
theorem readRecord_isFor_iff (ntowfV1A : Ntowf) (user : User) :
    (readRecord (samLine ntowfV1A user)).IsFor ntowfV1A user ↔
      colon ∉ user.name ∧ none ∉ Utf16.decode user.name := by
  constructor
  · intro isFor
    obtain ⟨characters, named, written⟩ := isFor.name
    rw [← toUtf8_encode, ← named] at written
    exact ⟨colon_not_mem_of_user ntowfV1A written,
      (Utf16.none_not_mem_decode_iff _).mpr ⟨characters, named⟩⟩
  · rintro ⟨absent, paired⟩
    obtain ⟨characters, named⟩ := (Utf16.none_not_mem_decode_iff _).mp paired
    rw [readRecord_samLine ntowfV1A absent]
    refine ⟨⟨characters, named, ?_⟩, rfl⟩
    rw [← toUtf8_encode, ← named]

/-! ### The whole file -/

theorem readSam_of_clean (ntowfV1A : Ntowf) {users : List User}
    (clean : ∀ user ∈ users, newline ∉ user.name) :
    (createSamFile true ntowfV1A users).map readSam =
      some (users.map fun user => readRecord (samLine ntowfV1A user)) := by
  have lines : ∀ line ∈ users.map (samLine ntowfV1A), 0x0A ∉ line := by
    rw [List.forall_mem_map]
    intro user member
    rw [newline_mem_samLine_iff]
    exact clean user member
  rw [createSamFile_eq, Option.map_some, readSam, Pieces.ended_terminated_of_clean lines,
    List.map_map]
  rfl

/-- The file reads back as one record for each user in order exactly when all names are
plain. -/
theorem sam_file_readable_iff (ntowfV1A : Ntowf) (users : List User) :
    (∃ records, (createSamFile true ntowfV1A users).map readSam = some records ∧
        List.Forall₂ (SamRecord.IsFor ntowfV1A) users records) ↔
      ∀ user ∈ users, PlainName user.name := by
  constructor
  · rintro ⟨records, read, isFor⟩
    have lengths := isFor.length_eq
    have clean : ∀ user ∈ users, newline ∉ user.name := by
      rw [createSamFile_eq, Option.map_some, Option.some_inj, readSam] at read
      rw [← read, List.length_map, ← List.length_map (samLine ntowfV1A)] at lengths
      have lines := Pieces.clean_of_length lengths.symm
      intro user member
      rw [← newline_mem_samLine_iff ntowfV1A]
      exact lines _ (List.mem_map_of_mem member)
    rw [readSam_of_clean ntowfV1A clean, Option.some_inj] at read
    rw [← read, List.forall₂_map_right_iff, List.forall₂_same] at isFor
    intro user member
    obtain ⟨absent, paired⟩ := (readRecord_isFor_iff ntowfV1A user).mp (isFor user member)
    exact ⟨absent, clean user member, paired⟩
  · intro plain
    refine ⟨_, readSam_of_clean ntowfV1A fun user member => (plain user member).newline, ?_⟩
    rw [List.forall₂_map_right_iff, List.forall₂_same]
    intro user member
    exact (readRecord_isFor_iff ntowfV1A user).mpr
      ⟨(plain user member).colon, (plain user member).paired⟩

/-- Every password has one hash. -/
def constantHash : Ntowf := fun _ => Vector.replicate 16 0xAB

/-- A name with a newline makes a record for another user. -/
theorem newline_makes_record :
    ((createSamFile true constantHash [{ name := [0x61, newline, 0x62], password := [] }]).map
      fun file => (readSam file).map SamRecord.user) = some [some [0x61], some [0x62]] ∧
    ¬∃ records,
      (createSamFile true constantHash [{ name := [0x61, newline, 0x62], password := [] }]).map
          readSam = some records ∧
        List.Forall₂ (SamRecord.IsFor constantHash)
          [{ name := [0x61, newline, 0x62], password := [] }] records := by
  have two : (createSamFile true constantHash
      [{ name := [0x61, newline, 0x62], password := [] }]).map (fun file => (readSam file).length) =
        some 2 := by
    decide +kernel
  refine ⟨by decide +kernel, ?_⟩
  rintro ⟨records, read, isFor⟩
  have one := isFor.length_eq
  obtain ⟨file, written, rfl⟩ := Option.map_eq_some_iff.mp read
  rw [written, Option.map_some, Option.some_inj] at two
  rw [two] at one
  cases one

/-- The name of a lone surrogate makes the record of the user with the name `?`. -/
example : (createSamFile true constantHash [{ name := [0xD800], password := [] }]).map
    (fun file => (readSam file).map SamRecord.user) = some [some [0x3F]] := by
  decide +kernel

end RdpConnection

end KRdp
