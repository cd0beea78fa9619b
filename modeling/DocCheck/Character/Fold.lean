import DocCheck.Character.Set

/-!
# Case folding

Characters that differ only in case are variants of one another, such as `K`, `k` and the sign for
kelvin. Variants are single characters: a letter and a pair of letters are never variants.

* `Character.variants` — the classes of variants;
* `CharSet.fold` — a set with all variants of its members.
-/

namespace DocCheck

namespace Character

/-- The pairs of variants in groups: the distance from the group before, the number of pairs less
one, the distance of pairs less one, and the distance of the two variants. -/
def pairRuns : List String :=
  ["cNJAbGLHBbGBCBbGICBbGeDPBbGBBBbGGHBbGSCBbGGAAlgXbGAAeRBXBBbYCBBHHBBRWBBbVCBBHAAhNBAAiCBBBBEAA",
   "hYBAABCBAhXCAABDAAdBBAAhUBAAhVBAABCAAhXBAAhZBAAdTBAAiDBAAiBBAABCAAgHBAAckyZBAAiDBAAiFBAAfABAA",
   "iGBCBBGAAiKBAABCAAiKDAABCAAiKBAABCBAiJCBBBEAAiLBAABEAABDAAcEOHBBRIBBWAABETBBbQIBBYAApzFBAABDA",
   "ApzCBBApzZCAABDAAcRBAAcTBEBBKAApyTBAApyQBAApySKAAckpRFAAckpNDAAckqPBAAckoEBAAckpGEAAckpGBAApx",
   "FBAAckpDFAApxLMAApwPFAAckpFFAAckoGWAAcknLBAAcknIiCBBBGAABFCAfAEAAeMHAAbMCCAbLEAAcMCBAcLCAAksH",
   "BBBbGDBBbGDAAbGECBbGDAAbGGBAbGDBAbGDBAbGGAAkrRbFAAIJLBBbAAAHFAABDAABGPAdCQBAbGDGBbGDDBbGKAAbG",
   "DGAbGIEAbGcBAABEOBBbMbABBcCAAPBGBBPbVBBdTbLAbWeiPbLAktKbNAAktKGAAktKDbQAelSbTCAelSzZdBAcfmUdC",
   "FAIdgRAABjGAAcagYEAAfqSRAAcaiYeKbVBBdUZBBcKbVBBdSHAIQFAIQHAIQHAIQFAIRDBIPHAIQBAcWCDAdIEBAdWCB",
   "AeYCBAeICBAeWEHAIQHAIQHAIQBAIDAAJQAAJNBAIQBAIFAAHOAAJmHAAbCbUPAQbJAABbfNZAbActUbVAbWdSAABHCBB",
   "LAABDAABLbXBBeDBBBHAABbtyKEBBMQBBcANBBgGGBBQbEBBcTBBBFEBBNAABFBBBEAAbWCJBBbDAAbjSBHBBTBBBFAAB",
   "EAABGCBBbFAABbflWAABboMZAbGbvZbNAbOgUbJAbOhKSBbNBEBbNMGBbNQCBbNIAAbNcqDbYAcMiAVAbGehKbFAbGbgl",
   "CbFAbGbumQbHAbI"]

/-- The classes of more than two variants. -/
def widerVariants : List (List Nat) :=
  [[0x4B, 0x6B, 0x212A], [0x53, 0x73, 0x17F], [0xB5, 0x39C, 0x3BC], [0xC5, 0xE5, 0x212B],
   [0x1C4, 0x1C5, 0x1C6], [0x1C7, 0x1C8, 0x1C9], [0x1CA, 0x1CB, 0x1CC], [0x1F1, 0x1F2, 0x1F3],
   [0x345, 0x399, 0x3B9, 0x1FBE], [0x392, 0x3B2, 0x3D0], [0x395, 0x3B5, 0x3F5],
   [0x398, 0x3B8, 0x3D1, 0x3F4], [0x39A, 0x3BA, 0x3F0], [0x3A0, 0x3C0, 0x3D6],
   [0x3A1, 0x3C1, 0x3F1], [0x3A3, 0x3C2, 0x3C3], [0x3A6, 0x3C6, 0x3D5], [0x3A9, 0x3C9, 0x2126],
   [0x412, 0x432, 0x1C80], [0x414, 0x434, 0x1C81], [0x41E, 0x43E, 0x1C82],
   [0x421, 0x441, 0x1C83], [0x422, 0x442, 0x1C84, 0x1C85], [0x42A, 0x44A, 0x1C86],
   [0x462, 0x463, 0x1C87], [0x1C88, 0xA64A, 0xA64B], [0x1E60, 0x1E61, 0x1E9B]]

/-- The pairs in a group list, counted from where the group before began. -/
def pairsFrom (start : Nat) : List Nat → List (List Nat)
  | skip :: more :: stride :: gap :: rest =>
    let first := start + skip
    ((List.range (more + 1)).map fun i =>
      [first + i * (stride + 1), first + i * (stride + 1) + gap]) ++ pairsFrom first rest
  | _ => []

/-- The classes of characters that differ only in case. -/
def variants : List (List Nat) :=
  widerVariants ++ pairsFrom 0 (CharSet.readRuns pairRuns)

end Character

/-- A set with all variants of its members. -/
def CharSet.fold (s : CharSet) : CharSet :=
  let added := (Character.variants.filter fun vs => vs.any s.has).flatten
  .ofRanges (s.ranges ++ added.map fun n => (n, n))

end DocCheck
