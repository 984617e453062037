import ContentCoding.Decode.Transducer

/-!
# Damage to brotli streams

A stream that is not valid and one that is cut short give one report, and they give it
once.
-/

namespace ContentCoding.Brotli

/-- The report of a stream that cannot be decoded to its end. -/
def invalid : Failure := ⟨.described .invalidData "Invalid Data", false⟩

end ContentCoding.Brotli
