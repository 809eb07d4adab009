import Signoff.Bytes
import Signoff.Checksum

namespace Signoff.Golden

structure ChecksumVector where
  name : String
  body : List UInt8
  algorithm : Algorithm
  digest : String

def checksumVectors : List ChecksumVector := [
  { name := "sample pdf body, SHA-256"
    body := Text.bytes "Sample PDF content"
    algorithm := .sha256
    digest := "b3b4e8714358cc79990c5c83391172e01c3e79a1b456d7e0c570cbf59da30e23" },
  { name := "sample pdf body, SHA-512"
    body := Text.bytes "Sample PDF content"
    algorithm := .sha512
    digest := "37bfb8e9b492be2957413e7070cd566092fe0d2655e53a9526fb7786129a5a0d" ++
      "2c50422e695dcc026770ca9c0c20c1ff923baabec8279af0513a93ff8cfb2b71" },
  { name := "empty body, SHA-256"
    body := []
    algorithm := .sha256
    digest := "e3b0c44298fc1c149afbf4c8996fb92427ae41e4649b934ca495991b7852b855" },
  { name := "empty body, SHA-512"
    body := []
    algorithm := .sha512
    digest := "cf83e1357eefb8bdf1542850d66d8007d620e4050b5715dc83f4a921d36ce9ce" ++
      "47d0d13c5d85f2b0ff8318d2877eec2f63b931bd47417a81a538327af927da3e" },
  { name := "hello world, SHA-256"
    body := Text.bytes "hello world"
    algorithm := .sha256
    digest := "b94d27b9934d3e08a52e52d7da7dabfac484efe37a5380ee9088f7ace2efcde9" }]

end Signoff.Golden
