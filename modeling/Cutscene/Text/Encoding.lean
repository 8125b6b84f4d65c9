import Cutscene.Text.Utf8

/-!
The encodings of script files: their names, and the texts that bytes are in them.

In Latin-1 every byte is the character of the same number, and ASCII has only the lower half of the
bytes. An encoding goes by several names, in which only ASCII letters, digits and periods count.
Where there are no bytes there is nothing to read, and any name will do.
-/

namespace Cutscene.Encoding

/-- A name with all its separators alike: letters are small, and every run of other characters is
one underscore, or none at either end. A period is not a separator; a letter outside of ASCII is. -/
def plainName (name : Text) : Text :=
  let spaced := name.map fun c => if c.isAlphanum || c = '.' then c.toLower else ' '
  ['_'].intercalate ((spaced.splitOn ' ').filter (!·.isEmpty))

def key : Encoding → Text
  | latin1 => "latin_1".toList
  | ascii => "ascii".toList
  | utf8 => "utf_8".toList

def aliases : Encoding → List Text
  | latin1 =>
      ["8859".toList, "cp819".toList, "csisolatin1".toList, "ibm819".toList, "iso8859".toList,
        "iso8859_1".toList, "iso_8859_1".toList, "iso_8859_1_1987".toList, "iso_ir_100".toList,
        "l1".toList, "latin".toList, "latin1".toList]
  | ascii =>
      ["646".toList, "ansi_x3.4_1968".toList, "ansi_x3_4_1968".toList, "ansi_x3.4_1986".toList,
        "cp367".toList, "csascii".toList, "ibm367".toList, "iso646_us".toList,
        "iso_646.irv_1991".toList, "iso_ir_6".toList, "us".toList, "us_ascii".toList]
  | utf8 =>
      ["u8".toList, "utf".toList, "utf8".toList, "utf8_ucs2".toList, "utf8_ucs4".toList,
        "cp65001".toList]

/-- The encoding goes by the name. In its other names a period may stand for an underscore. -/
def hasName (name : Text) (e : Encoding) : Bool :=
  let plain := plainName name
  plain = e.key || plain ∈ e.aliases ||
    plain.map (fun c => if c = '.' then '_' else c) ∈ e.aliases

def ofName? (name : Text) : Option Encoding := [latin1, ascii, utf8].find? (hasName name)

/-- ASCII characters, counted from a position. -/
def decodeAscii (position : Nat) : Bytes → Except BadBytes Text
  | [] => pure []
  | b :: bs =>
    if b < 0x80 then return ofByte b :: (← decodeAscii (position + 1) bs)
    else throw ⟨.ascii, .notAscii, position, [b]⟩

/-- The text that some bytes are. -/
def decode (e : Encoding) (bytes : Bytes) : Except BadBytes Text :=
  match e with
  | latin1 => pure (bytes.map ofByte)
  | ascii => decodeAscii 0 bytes
  | utf8 => decodeUtf8 bytes

end Cutscene.Encoding

namespace Cutscene

/-- Why bytes are no text in the encoding of a name. -/
inductive Undecodable
  | unknownName (name : Text)
  | badBytes (e : BadBytes)
deriving DecidableEq, Repr

def Undecodable.message : Undecodable → Text
  | unknownName name => "unknown encoding: ".toList ++ name
  | badBytes e => e.message

/-- The text that some bytes are in the encoding of a name. -/
def Bytes.decode (name : Text) (bytes : Bytes) : Except Undecodable Text :=
  if bytes.isEmpty then pure []
  else
    match Encoding.ofName? name with
    | none => throw (.unknownName name)
    | some e => (e.decode bytes).mapError .badBytes

theorem Bytes.decode_nil (name : Text) : Bytes.decode name [] = .ok [] := rfl

end Cutscene
