import ContentCoding.Deflate.Layer
import ContentCoding.Zlib.Stream

/-!
# Zlib layers
-/

namespace ContentCoding.Zlib

/-- The header for a compression level, which it tells roughly. -/
def header (level : Nat) : Bytes :=
  [0x78, if level ≤ 1 then 0x01 else if level ≤ 3 then 0x5E else if level ≤ 8 then 0x9C else 0xDA]

/-- The coding as its decoder sees it. -/
def coding : Transducer := format.transducer

/-- The coding for a compression level as its encoder sees it. -/
def packer (level : Nat) : Packer :=
  (Deflate.packer level).wrap (header level) fun data => Bytes.bigEndian 4 (Adler32.ofBytes data)

/-- The encoding layer for a compression level. -/
def encoder (patience level : Nat) : Encoder :=
  (packer level).encoder (Deflate.deferRule patience)

/-- The encoding layer before its first call. -/
def fresh (patience level : Nat) : (encoder patience level).State :=
  .fresh (packer level) (Deflate.deferRule patience)

/-- The decoding layer. -/
def decoder (patience : Nat) : Decoder := coding.decoder (Deflate.readRule _ patience)

end ContentCoding.Zlib
