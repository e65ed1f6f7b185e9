import EventRules.Text.Normalization

/-!
# Joining letters

The letters of cursive scripts that join their neighbours, and the rule for the two invisible joiners: they may
stand only where they change how a text is written.
-/

namespace EventRules.Text

/-- The letters that join the letter after them. -/
def joinsNextTable : CharSet := .ofPacked <|
  "0hBAFABABEEMBGBB3BBIPS5BBBJABABB8BCCASCFDBIBABABB-KDOCDBACCCFaC0BmCECABJBAKABDCAzACEBAQJF" ++
  "BCFBOupDAYoCO1BBAls3BiBdiYEIAFJBCKDhEABADCBBBACAyBhK1BBAvMBBB8DCBQMCyDCLeBABBEACBBBBACAFB" ++
  "k9mB3C"

/-- The letters that join the letter before them. -/
def joinsPreviousTable : CharSet := .ofPacked <|
  "0hBABzBJ3BBBCBuCBAYBKCCAQABzziBaC0BlCYHABDBDFSDACGQMBwupDAYoCO1BBAls3BhBeiYFBABBDIBJCAGEg" ++
  "ERXFiK2BuMCBB8DUMDxReBABEBHBDEBl9mB3C"

/-- The marks that joining passes over. -/
def joinTransparentTable : CharSet := .ofPacked <|
  "dFAiSfDjIG7IcBBABBBBBA8CKBAeBUQA5DGCFCBBD1BABA+wrCKqBIJAYDBIBCBEbBCrBIaBXB-nBABAEHEADGKBz" ++
  "AqBAEDIAUBwACBpBAEBEBCCDA+BDALBpBAEEBBEAUBWFBAqBACABDIAHBLB+AtBAMAiBADAnBABCFCBDHBLBzAqBA" ++
  "CAGAFBUByBpBBEDIAUBzA8CAHCBAqCACGMH2DACILG9CBxABABAnBNBEBBFKB3BJA6DDBFBBCBZBECQDNACBGAPAv" ++
  "VCizCzB+B+B0CBBGIACKJAdBCBAlDB2BAmDCEBJAGCrGBCAqBABGBABACHGJCAgBdBCLUDgBABEBAFA8BIMB0BDCB" ++
  "BCoBABBDABCqBHCBoECBMBGEAGADB6GvBbQACBwEhBEFF0D0BuvCCdEA0D-aRDbDBkezDBJ0BBgCBgIADAEAZBFAn" ++
  "EBwRNA6BHZKeBCgBACDCB7BA3CFCBCBMAIAfBAjBABCCBFBBAaBBIAeHACAEAgpTA1XPQPfGApHC1QA2HAlEE6kBC" ++
  "BBFD8BCEA5FBtRD1CEtJBdCF6CKhBDrDAmBO9BACBKChBDCBHAtBC4BEBHuBAMBkBIKDCAvCCCABBGACAtEADHVBp" ++
  "BBDA5BGDE6CFNABABAOBlCHCCBAXAkCFBAEBBBeHDGBBBxBlCHCABBaDABACFBA5DABACDBE3IIBB0IBBAEAgEDCB" ++
  "EA0BJ8BFCDIAJFCCeBMBB6GABCBA9GGBFBAiCVCGBBBBqDFDABBBGBA8CBDABArKBLBkBEFABAXAl6FQGO86LLDC0" ++
  "eCErBGo0BAvBDhCAo5TBBDsiEdBCW0RCJPCG+DkECrtBmBEhBIAOAWEBOgaBGBQCGBBBE4DA0FGnLAtBDsPDuHBjH" ++
  "ACAHBFAqOGdDHll5YA+vC0EfH"

/-- The combining class of the sign that takes the vowel from a consonant. -/
def viramaClass : Nat := 9

/-- Whether the nearest character that joining does not pass over is in a set. -/
def nearestIn (set : CharSet) (cs : List Char) : Bool :=
  (cs.find? (!joinTransparentTable.contains ·)).any set.contains

/-- Whether the joiners of a text stand in their places: either may follow a virama, and the one that parts
letters may stand between two that would join. `before` holds the characters passed, last first. -/
def joinersInPlace (before : List Char) : List Char → Bool
  | [] => true
  | c :: rest =>
    let afterVirama := (before.head?.map combiningClass) == some viramaClass
    let inPlace :=
      if c.toNat = 0x200C then
        afterVirama || (nearestIn joinsNextTable before && nearestIn joinsPreviousTable rest)
      else if c.toNat = 0x200D then afterVirama
      else true
    inPlace && joinersInPlace (c :: before) rest

end EventRules.Text
