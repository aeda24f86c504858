import HttpMock.Bytes
import HttpMock.Text.Case
/-! Media types of files, by extension or by sniffing their content. -/
namespace HttpMock.Sniff

/-- The media types of the known file extensions, by lower-case extension with its dot. -/
def extensionTable : List (String × String) :=
  [(".avif", "image/avif"), (".css", "text/css; charset=utf-8"), (".gif", "image/gif"),
   (".htm", "text/html; charset=utf-8"), (".html", "text/html; charset=utf-8"),
   (".jpeg", "image/jpeg"), (".jpg", "image/jpeg"), (".js", "text/javascript; charset=utf-8"),
   (".json", "application/json"), (".mjs", "text/javascript; charset=utf-8"),
   (".pdf", "application/pdf"), (".png", "image/png"), (".svg", "image/svg+xml"),
   (".wasm", "application/wasm"), (".webp", "image/webp"), (".xml", "text/xml; charset=utf-8")]

/-- The media type of a file extension (with its dot), in any case. -/
def byExtension (ext : Bytes) : Option Bytes :=
  ((extensionTable.find? fun (e, _) => e.toBytes == Text.lower ext).map (·.2.toBytes))

/-- Blanks that may precede markup. -/
def isBlank (b : UInt8) : Bool := b = 0x09 || b = 0x0A || b = 0x0C || b = 0x0D || b = 0x20

/-- A signature: a pattern under a mask, optionally after leading blanks. -/
structure Signature where
  pattern : Bytes
  mask : Bytes
  skipBlanks : Bool := false
  mediaType : String

/-- A signature that must match exactly. -/
def exact (pattern : String) (mediaType : String) : Signature :=
  let p := pattern.toList.map fun c => UInt8.ofNat c.toNat
  { pattern := p, mask := p.map fun _ => 0xFF, mediaType }

/-- A signature with a mask, given as octet values. -/
def masked (pattern mask : List Nat) (mediaType : String) (skipBlanks : Bool := false) : Signature :=
  { pattern := pattern.map UInt8.ofNat, mask := mask.map UInt8.ofNat, skipBlanks, mediaType }

/-- Whether data matches a signature. -/
def Signature.matches (s : Signature) (data : Bytes) : Bool :=
  let d := if s.skipBlanks then data.dropWhile isBlank else data
  s.pattern.length == s.mask.length && d.length ≥ s.pattern.length &&
    ((d.zip (s.mask.zip s.pattern)).all fun (x, m, p) => x &&& m == p)

/-- Whether the data, after leading blanks, opens with an HTML tag: the tag's name in any case,
followed by a blank or `>`. -/
def opensTag (tag : String) (data : Bytes) : Bool :=
  let d := data.dropWhile isBlank
  let t := tag.toBytes
  d.length > t.length &&
    (d.zip t).all (fun (x, y) => if 0x41 ≤ y && y ≤ 0x5A then x &&& 0xDF == y else x == y) &&
    (match d[t.length]? with
      | some b => b = 0x20 || b = 0x3E
      | none => false)

/-- Tags that mark HTML. -/
def htmlTags : List String :=
  ["<!DOCTYPE HTML", "<HTML", "<HEAD", "<SCRIPT", "<IFRAME", "<H1", "<DIV", "<FONT", "<TABLE",
   "<A", "<STYLE", "<TITLE", "<B", "<BODY", "<BR", "<P", "<!--"]

/-- Signatures after the HTML tags, in the order they are tried. -/
def signatures : List Signature :=
  [masked [0x3C, 0x3F, 0x78, 0x6D, 0x6C] [0xFF, 0xFF, 0xFF, 0xFF, 0xFF] "text/xml; charset=utf-8" true,
   exact "%PDF-" "application/pdf",
   exact "%!PS-Adobe-" "application/postscript",
   masked [0xFE, 0xFF, 0, 0] [0xFF, 0xFF, 0, 0] "text/plain; charset=utf-16be",
   masked [0xFF, 0xFE, 0, 0] [0xFF, 0xFF, 0, 0] "text/plain; charset=utf-16le",
   masked [0xEF, 0xBB, 0xBF, 0] [0xFF, 0xFF, 0xFF, 0] "text/plain; charset=utf-8",
   masked [0, 0, 1, 0] [0xFF, 0xFF, 0xFF, 0xFF] "image/x-icon",
   masked [0, 0, 2, 0] [0xFF, 0xFF, 0xFF, 0xFF] "image/x-icon",
   exact "BM" "image/bmp",
   exact "GIF87a" "image/gif",
   exact "GIF89a" "image/gif",
   masked [0x52, 0x49, 0x46, 0x46, 0, 0, 0, 0, 0x57, 0x45, 0x42, 0x50, 0x56, 0x50]
     [0xFF, 0xFF, 0xFF, 0xFF, 0, 0, 0, 0, 0xFF, 0xFF, 0xFF, 0xFF, 0xFF, 0xFF] "image/webp",
   masked [0x89, 0x50, 0x4E, 0x47, 0x0D, 0x0A, 0x1A, 0x0A] (List.replicate 8 0xFF) "image/png",
   masked [0xFF, 0xD8, 0xFF] [0xFF, 0xFF, 0xFF] "image/jpeg",
   masked [0x46, 0x4F, 0x52, 0x4D, 0, 0, 0, 0, 0x41, 0x49, 0x46, 0x46]
     [0xFF, 0xFF, 0xFF, 0xFF, 0, 0, 0, 0, 0xFF, 0xFF, 0xFF, 0xFF] "audio/aiff",
   exact "ID3" "audio/mpeg",
   masked [0x4F, 0x67, 0x67, 0x53, 0] [0xFF, 0xFF, 0xFF, 0xFF, 0xFF] "application/ogg",
   masked [0x4D, 0x54, 0x68, 0x64, 0, 0, 0, 6] (List.replicate 8 0xFF) "audio/midi",
   masked [0x52, 0x49, 0x46, 0x46, 0, 0, 0, 0, 0x41, 0x56, 0x49, 0x20]
     [0xFF, 0xFF, 0xFF, 0xFF, 0, 0, 0, 0, 0xFF, 0xFF, 0xFF, 0xFF] "video/avi",
   masked [0x52, 0x49, 0x46, 0x46, 0, 0, 0, 0, 0x57, 0x41, 0x56, 0x45]
     [0xFF, 0xFF, 0xFF, 0xFF, 0, 0, 0, 0, 0xFF, 0xFF, 0xFF, 0xFF] "audio/wave"]

/-- Signatures after the video signature of MP4, in the order they are tried. -/
def lateSignatures : List Signature :=
  [masked [0x1A, 0x45, 0xDF, 0xA3] [0xFF, 0xFF, 0xFF, 0xFF] "video/webm",
   masked (List.replicate 34 0 ++ [0x4C, 0x50]) (List.replicate 34 0 ++ [0xFF, 0xFF])
     "application/vnd.ms-fontobject",
   masked [0, 1, 0, 0] [0xFF, 0xFF, 0xFF, 0xFF] "font/ttf",
   exact "OTTO" "font/otf",
   exact "ttcf" "font/collection",
   exact "wOFF" "font/woff",
   exact "wOF2" "font/woff2",
   masked [0x1F, 0x8B, 0x08] [0xFF, 0xFF, 0xFF] "application/x-gzip",
   masked [0x50, 0x4B, 3, 4] [0xFF, 0xFF, 0xFF, 0xFF] "application/zip",
   masked [0x52, 0x61, 0x72, 0x21, 0x1A, 0x07, 0] (List.replicate 7 0xFF) "application/x-rar-compressed",
   masked [0x52, 0x61, 0x72, 0x21, 0x1A, 0x07, 1, 0] (List.replicate 8 0xFF)
     "application/x-rar-compressed",
   masked [0, 0x61, 0x73, 0x6D] [0xFF, 0xFF, 0xFF, 0xFF] "application/wasm"]

/-- A big-endian number of four octets. -/
def word32 (bs : Bytes) : Nat := bs.foldl (fun acc b => acc * 256 + b.toNat) 0

/-- Whether the data is an MP4 file: an `ftyp` box whose brands include `mp4`. -/
def isMp4 (data : Bytes) : Bool :=
  let size := word32 (data.take 4)
  data.length ≥ 12 && data.length ≥ size && size % 4 == 0 &&
    (data.drop 4).take 4 == "ftyp".toBytes &&
    ((List.range (size / 4)).any fun k =>
      let st := 4 * k
      st ≥ 8 && st ≠ 12 && (data.drop st).take 3 == "mp4".toBytes)

/-- An octet that does not occur in text. -/
def isBinary (b : UInt8) : Bool :=
  b ≤ 0x08 || b = 0x0B || (0x0E ≤ b && b ≤ 0x1A) || (0x1C ≤ b && b ≤ 0x1F)

/-- The media type of content, from its first 512 octets. -/
def detect (content : Bytes) : Bytes :=
  let data := content.take 512
  let found : Option String :=
    if htmlTags.any (opensTag · data) then some "text/html; charset=utf-8"
    else match signatures.find? (·.matches data) with
      | some s => some s.mediaType
      | none =>
        if isMp4 data then some "video/mp4"
        else match lateSignatures.find? (·.matches data) with
          | some s => some s.mediaType
          | none =>
            if (data.dropWhile isBlank).any isBinary then none else some "text/plain; charset=utf-8"
  (found.getD "application/octet-stream").toBytes

end HttpMock.Sniff
