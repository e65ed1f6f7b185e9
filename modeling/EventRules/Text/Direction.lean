import EventRules.Text.Mapping

/-!
# Direction of writing

The bidirectional class of a character, and the rule that keeps a label of a domain name readable in a text of
either direction.
-/

namespace EventRules.Text

/-- How a character takes part in the order of a line: letters of either direction, numbers, what goes with
numbers, marks, invisible characters and neutral ones. -/
inductive Direction
  | left
  | right
  | arabic
  | arabicNumber
  | number
  | numberSign
  | numberMark
  | separator
  | mark
  | invisible
  | neutral
  | control
  deriving DecidableEq, Repr

/-- The class of a number in the table. -/
def Direction.ofCode : Nat → Direction
  | 0 => left
  | 1 => right
  | 2 => arabic
  | 3 => arabicNumber
  | 4 => number
  | 5 => numberSign
  | 6 => numberMark
  | 7 => separator
  | 8 => mark
  | 9 => invisible
  | 10 => neutral
  | _ => control

/-- The characters of all classes but that of letters written from left to right. -/
def directionTable : List (Nat × Nat × Nat) := valuedRangesOf 0 <| unpack <|
  "AIJAELANJAELABKACGAEKAAFAAHAAFABHAJEAAHAFKwFKwDKAFJAALAZJAAHAAKADGADKBBKAAJABKABGABEAAKBC" ++
  "KAAEBEKXAK-AK1OBKHNKCNKFIKBQKAfDIEBKIAKFBKBAKeDAKcEGI0IAKCBKAAGAABAcBIAABAAIAABABIAABABIA" ++
  "ABAAIAnBBAFDABKAACABGAACAAHAACABKAKIAfBCAUIAJDAAGABDACCAAIA4DCAGIAADAAKAFIABCABIAAKADIABC" ++
  "AJEAWCAAIAzCAwIAqCCAKIAOCAaBBAIIABBADKACBAAIAXBADIAABAIIAABACIAABAEIAaBBACIADBAfBCABDAFCA" ++
  "HIA9BCAXIAADA-InBAIBAIEHIEAIDGIKBIzAIqBAIEDIIAIUBIOBGHAGCAICBIpBAIEBIEBICCIDAI+BIDAILBIpB" ++
  "AIEEIBBIEAIUBINAGIFIBAIqBAICAIBDIIAIHBILBI+AItBAIMAI5BFKAAGAAKFAIDAInBAIBCIFCIBDIHBILBIUG" ++
  "KCAIqBAIPBIUBIyBIpBBIEDIIAIUBIzAI8CAIHCIBAIqCAICGIEAGHHI2DAICIILGI9CBIxAIBAIBAIADKjBNIBEI" ++
  "BBIFKIB3BIJAI6DDIBFIBBICBIZBIECIQDINAICBIGAIPAIvVCIgBJK6DAKvTALwBKlDCIzBI+BI+BI0CBIBGIIAI" ++
  "CKIHAGBAISJKGKKACIAAJAAIlDBI2BAImDCIEBIJAIGCIEAKDBKoE1BKXBICAIqBAIBGIBAIBAICHIGJICAIgB+Ih" ++
  "BDIgBAIBEIBAIFAI8BIIMBI0BDICBIBCIoBAIBBIDAIBCIqBHICBIoECIBMIBGIEAIGAIDBI6GvBItNAKBCKLCKNC" ++
  "KNCKNBKBKLACJBABAXKAGLAAHAEGAOKAAHAZKAALAFJADLAFJAAEDFEABFACKBJEABFACKRfBGA0BIPBKBDKBBKKA" ++
  "KBCKFFKBAKBAKBAKEAGLBKEEKFDKCPK9BCKE1EKAAFAAGA1JK5CZKBgEKZKKV7BKATEeC1OKBiKK0IjTKC-KB8DK5" ++
  "HFKECIHGKvDAI0D-IAtCK2BZKBoCKMlGKwLKEALADKDYKJDICAKFBKFCKpCBIABKDAKqCAK4G3BKpBBKhBPKyCKiB" ++
  "OKMDK7FDK3DBK-AK0eGvBKgkVmBK6KCKvCDIAAKAJIABK+BIgCBIO1BK6DAKpDAIDAIEAIZBIBDKAAILBGqBDKcCB" ++
  "IwRINAI6BHIZKIeBCIgBAICDICBI7BAI3CFICBICBIMAIIAIfBAIjBAIBCICBIFBIBAIaBBIIAIjDBKpDAICAIEAI" ++
  "fpTABAAIAJBAAFA5BBAdPCARKAuDCAAKA-JAMCACKAPIAJKGPIA-KAAHAAKAAHBAKAAHAIKAAGABKABFACKBAKABG" ++
  "AAKEeECAAJBBKACGAEKAAFAAHAAFABHAJEAAHAFKwFKwKKqDBGACKABGBGKBIJAEKABJ1IAKuBcCKDMKDAKsCAI2H" ++
  "AIAwEqDEI54BuIBAAKA0HBACIAABABIAEBADIA7BBACIADBAAIA4FBABIAhCBAGKAvNBA3BCADIAHCAJDAFCAvIBA" ++
  "+DAbBBABIASBAsBCACIAfBBAVCAKIA+CARBADIApDBBAImBOILTKKAICBIKCIhBDICBIHAItBCI4BEIBHIuBAIMBI" ++
  "kBIIKDICAIvCCICAIBBIGAICAItEAIDHIVBIpBBIDAI5BGIDEI3GHICCIBAIXAIkCFIBAIEBIBBIeHDIGBIBBIxBI" ++
  "lCHICAIBBI-MKuBAIBAICFIBAI5DCICDIBEI3IIIBBI0IBIBAIEAIgEDICBIEAI0BFICBI8BFICDIIAIJFICCIeBM" ++
  "IBBImMGIBFIkCVICGIBBIBBIqDFIDAIBBIBGIBAI8CBIDAIBAIrKBILBIkBEIFAIBAIiEHKADGAQKe2FAIGOIqkNE" ++
  "IrBGIo0BAIvBDIfCAKBAIo5TBIBDJsiEdBICWI0RCIJHJAHICGI+DIrBBKV1CKACIAAKqFmCK4yAKpBAKpBAKpBAK" ++
  "pBAKKhBE0QmBIEhBIIAIOAIWEIBOIgaBGIBQICGIBBIBEI4DAI0FGInLAItBDIPAGcPDIgYfGBAGIAcDBAGIA4ZBA" ++
  "fCCAvBBAfCCAfFBAfHCABKANCAvHBAbBKE3DKMOKCOKBOKB4BKKKEAEK-AKqBFKtBAKiFFKqEn+KEQKDMKDmDKEuC" ++
  "KGLKEAKPLKEnBKIJKG7BKIzKCBKeCjKKMNKCMKDIKHdBKBGKINKEIKHIKHiEKBmBK5BJE40BBJuvvBBJuvvBBJuvv" ++
  "BBJuvvBBJuvvBBJuvvBBJuvvBBJuvvBBJuvvBBJuvvBBJuvvBBJuvvB1IJAfHIAfgDJuvrBBJuvvBBJuvvBBJ"

/-- The bidirectional class of a character. -/
def direction (c : Char) : Direction :=
  .ofCode ((valueIn? directionTable c.toNat).getD 0)

/-- Whether a class is of the letters and numbers that are written from right to left. -/
def Direction.isRightward : Direction → Bool
  | right | arabic | arabicNumber => true
  | _ => false

/-- Whether characters of a class may stand in any label. -/
def Direction.isCommon : Direction → Bool
  | number | numberSign | numberMark | separator | mark | invisible | neutral => true
  | _ => false

/-- Whether a label reads the same in a text of either direction: it starts with a letter, holds nothing of the
other direction, ends with a letter or number before its last marks, and has numbers of one kind only. -/
def isOneWay (label : List Char) : Bool :=
  let classes := label.map direction
  let last := (classes.reverse.dropWhile (· == .mark)).head?
  match classes with
  | [] => true
  | .left :: _ =>
    classes.all (fun d => d == .left || d.isCommon) && (last == some .left || last == some .number)
  | .right :: _ | .arabic :: _ =>
    classes.all (fun d => d.isRightward || d.isCommon) &&
      last.any (fun d => d.isRightward || d == .number) &&
      !(classes.contains .number && classes.contains .arabicNumber)
  | _ => false

end EventRules.Text
