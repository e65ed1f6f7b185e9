import EventRules.Text.CharSet
import EventRules.Text.Mapping

/-!
# Composed normal form

The Unicode normal form C: a text is decomposed as far as possible, its combining marks are put in order of their
classes, and what can be composed again is. Hangul syllables follow an arithmetic rule, all else is in tables.
-/

namespace EventRules.Text

/-- The characters with a combining class above zero, and the class. -/
def combiningTable : List (Nat × Nat × Nat) := valuedRangesOf 0 <| unpack <|
  "0YU6HAA8HADsGAA8HAAoGAEsGABaGADsGABaGAKsGAEBADsGAC6HCA6HCAgHAA6HACsGAC6HABsGBC6HADsGAA6HA" ++
  "A8HABsGAA6HAA9HABaHAA9HABaHAA9HAM6HjIE6H9IAsGAD6HAAsGAC6HAAuGAAsGAF6HAFsGAB6HAAsGAB6HAAuG" ++
  "AA4HAA6HAAKAALAAMAANAAOAAPAAQAARAASABTAAUAAVAAWBAXBAYAAZBA6HAAsGBAS8CH6HAA+AA-AA0BgBAxAAy" ++
  "AAzAA+AA-AA0BAA1BAA2BAB6HABsGAE6HAAsGAB6HAAsGQA3B5DG6HCD6HAAsGAA6HCB6HBAsGAB6HAAsG3BA4B+A" ++
  "6HAAsGAB6HAAsGAB6HACsGAA6HABsGAA6HAAsGAC6HAAsGAA6HAAsGAA6HAAsGAA6HAAsGAB6H0FG6HAAsGAA6HJA" ++
  "sGYD6HBI6HBC6HBE6HbBCsGrBB6HACsGAD6HaBE6HAEsGAN6HBAsGAB6HAAsGAB6HAAsGAC6HACsGAAxAAyAAzAC6" ++
  "HAAsGAB6HABsGAE6HsBAHQAJDA6HAAsGAB6H7DAHQAJgBA6HtBAHQAJeDAHQAJeDAHQAJvDAJeDAHQAJHAkCAArC5" ++
  "DAHQAJdDBJQAJsDAJdDB7DAAJNDbDcDBmDAAJNDqDcCBsGxAsGBAsGBAoGnBA1EAA2EBA4EFD2ECA2EBB6HAAJBB6" ++
  "HuBAsGgDAHBBJiCAsGfWC6HkzBJ+AJtEAJKA6HbGA4HfEAuGAA6HAAsGrGA6HAAsG7CAJUH6HCAsGgBE6HAFsGAB6" ++
  "HAAsGBBsGAB6HABsGAE6HAAsGAR6HAAsGCF6HAAsGAD6HAAaH8CAHPAJ6BA6HAAsGAG6HmBBJqBAHLBJ3CAHoEC6H" ++
  "BABAEsGAB6HADsGAA6HBGBEAsGGA6HDB6H6GB6HAAsGAG6HAAsGAB6HAAaHAAmGAAsGAAaGA4B6HAA8HAB4HAAsGA" ++
  "AqGAA6HAA9HAAsGAA6HAAsGgWB6HABBAD6HACBAB6HEA6HDBBAA6HAAsGAA6HABBADsGAA6HuvCC6HdEAJ0D-6HaR" ++
  "AqGAA4HAA8HAAuGAB0H9DBIkezA6HEJ6H0BB6HgCB6HkIAJ5BAJnEAJxR6HpBCsG5BAJvCAHMAJfHA6HBB6HAAsGC" ++
  "B6HFB6HBA6HkBAJmHAJgpTAw1YG6HAGsGAB6Hd+AsG2HAsGlEE6HikBAsGBA6H8BA6HAABAAsGEAJ5FA6HAAsGtRD" ++
  "6H1CE6HtJB6HdCBsGBCsG6CBsGAC6HAAsGAA6HADsGhBA6HAAsGAA6HAAsG0GAJ9BAJOAJpBAJAAH5CC6HgBBJuBA" ++
  "HcCAJJAHaDAJAAHiFAHAAJgCBHQAJYG6HDE6HpCCJhDAJDAHXA6H3DAJAAHrHAJAAHuDAJmDAJAAHjDAJdIAJAAH2" ++
  "IBJEAHsEAJjCAJSAJhCAJ5NAJ2IAHBBJhCAJ9NBJcfQAJ0eCEBrBG6Hp5BBGc5TAB66FBoGACBDA2HAEoGIHsGCE6" ++
  "HABsG+D6HkEC6HrdDG6HBQ6HCG6HBB6HBE6H4DA6H0FG6HnLA6HtBD6HsPB8HAAsGAA6HuHA6HAAsGjHA6HCA6HHB" ++
  "6HFA6HqOGsGdDF6HAAH"

/-- The combining class of a character, zero for one that starts a new combination. -/
def combiningClass (c : Char) : Nat :=
  if c.toNat < 0x300 then 0 else (valueIn? combiningTable c.toNat).getD 0

/-- The characters that a composition can yield, with their full decompositions. -/
def compositions : List (Nat × List Nat) := expansionsOf 0 <| unpack <|
  "0GC1C0YBC1C1YBC1C2YBC1C3YBC1C8YBC1CaYCC3C7ZBC5C0YBC5C1YBC5C2YBC5C8YBC9C0YBC9C1YBC9C2YBC9C" ++
  "8YCCeC3YBCfC0YBCfC1YBCfC2YBCfC3YBCfC8YDClC0YBClC1YBClC2YBClC8YBCpC1YDC1D0YBC1D1YBC1D2YBC1" ++
  "D3YBC1D8YBC1DaYCC3D7ZBC5D0YBC5D1YBC5D2YBC5D8YBC9D0YBC9D1YBC9D2YBC9D8YCCeD3YBCfD0YBCfD1YBC" ++
  "fD2YBCfD3YBCfD8YDClD0YBClD1YBClD2YBClD8YBCpD1YCCpD8YBC1C4YBC1D4YBC1C6YBC1D6YBC1C8ZBC1D8ZB" ++
  "C3C1YBC3D1YBC3C2YBC3D2YBC3C7YBC3D7YBC3CcYBC3DcYBC4CcYBC4DcYDC5C4YBC5D4YBC5C6YBC5D6YBC5C7Y" ++
  "BC5D7YBC5C8ZBC5D8ZBC5CcYBC5DcYBC7C2YBC7D2YBC7C6YBC7D6YBC7C7YBC7D7YBC7C7ZBC7D7ZBC8C2YBC8D2" ++
  "YDC9C3YBC9D3YBC9C4YBC9D4YBC9C6YBC9D6YBC9C8ZBC9D8ZBC9C7YECaC2YBCaD2YBCbC7ZBCbD7ZCCcC1YBCcD" ++
  "1YBCcC7ZBCcD7ZBCcCcYBCcDcYFCeC1YBCeD1YBCeC7ZBCeD7ZBCeCcYBCeDcYECfC4YBCfD4YBCfC6YBCfD6YBCf" ++
  "CbYBCfDbYDCiC1YBCiD1YBCiC7ZBCiD7ZBCiCcYBCiDcYBCjC1YBCjD1YBCjC2YBCjD2YBCjC7ZBCjD7ZBCjCcYBC" ++
  "jDcYBCkC7ZBCkD7ZBCkCcYBCkDcYDClC3YBClD3YBClC4YBClD4YBClC6YBClD6YBClCaYBClDaYBClCbYBClDbYB" ++
  "ClC8ZBClD8ZBCnC2YBCnD2YBCpC2YBCpD2YBCpC8YBCqC1YBCqD1YBCqC7YBCqD7YBCqCcYBCqDcY2BCfCrYBCfDr" ++
  "YOClCrYBClDrYzC1CcYBC1DcYBC9CcYBC9DcYBCfCcYBCfDcYBClCcYBClDcYBDlC8Y4YBDlD8Y4YBDlC8Y1YBDlD" ++
  "8Y1YBDlC8YcYBDlD8YcYBDlC8Y0YBDlD8Y0YCD1C8Y4YBD1D8Y4YBD1C7Y4YBD1D7Y4YBC6G4YBC6H4YDC7CcYBC7" ++
  "DcYBCbCcYBCbDcYBCfC8ZBCfD8ZBDfC8Z4YBDfD8Z4YBCnNcYBCiUcYBCaDcYEC7C1YBC7D1YDCeC0YBCeD0YBD1C" ++
  "aY1YBD1DaY1YBC6G1YBC6H1YBCoG1YBCoH1YBC1CfYBC1DfYBC1ChYBC1DhYBC5CfYBC5DfYBC5ChYBC5DhYBC9Cf" ++
  "YBC9DfYBC9ChYBC9DhYBCfCfYBCfDfYBCfChYBCfDhYBCiCfYBCiDfYBCiChYBCiDhYBClCfYBClDfYBClChYBClD" ++
  "hYBCjC6ZBCjD6ZBCkC6ZBCkD6ZDC8CcYBC8DcYHC1C7YBC1D7YBC5C7ZBC5D7ZBDfC8Y4YBDfD8Y4YBDfC3Y4YBDf" ++
  "D3Y4YBCfC7YBCfD7YBDfC7Y4YBDfD7Y4YBCpC4YBCpD4YiKC8F1YBChy1YCCly1YBCny1YBCpy1YCCvy1YCC5z1YB" ++
  "C9z1YBDpz8Y1YwCpy8YBC5z8YBChz1YBClz1YBCnz1YBCpz1YBD5+8Y1YwCpz8YBC5+8YBCvz1YBC5+1YBC9+1YFC" ++
  "i+1YBCi+8YcBCl0B0YBCl0B8YCCj0B1YEC60B8YFCq0B1YBCo0B0YBC31B6YLCo0B6Y0BCo1B6YXCl1B0YBCl1B8Y" ++
  "CCj1B1YECm2B8YFCq1B1YBCo1B0YBC32B6YYCk3BfYBCl3BfYaCCm0B6YBCm1B6YOCg0B6YBCg1B6YBCg0B8YBCg1" ++
  "B8YDCl0B6YBCl1B6YDCo6B8YBCp6B8YBCm0B8YBCm1B8YBCn0B8YBCn1B8YDCo0B4YBCo1B4YBCo0B8YBCo1B8YBC" ++
  "u0B8YBCu1B8YDC87B8YBC97B8YBCd1B8YBCd2B8YBC31B4YBC32B4YBC31B8YBC32B8YBC31BbYBC32BbYBC71B8Y" ++
  "BC72B8YDCb1B8YBCb2B8Y9JC7hBjiBBC7hBkiBBC8iBkiBBC7hBliBBCaiBkiBqEClmBkiBCC1mBkiBRCimBkiBmS" ++
  "C89Cs9CICg9Cs9CDCj9Cs9CnEC7eCudCBC7eCneCsLC7qCmqCDC7qCupCBC7qCnqC8CCisCnuCmBC6uCutCBC7uCu" ++
  "tCBC6uCnuCsDC62Dm2DoDCv5Dl6DHC66Dl6DBC66Dm6DCC66D26DBD66D26Dl6DvDC6aDu9DBC7aDu9DBC6aDnaDe" ++
  "ECpeDaeDCCpeDfeDBDpeDfeDaeDBCpeDveD8SC51Ee1E0nCC5oGlpGCC7oGlpGCC9oGlpGCCboGlpGCCdoGlpGECh" ++
  "oGlpG9BCqpGlpGCCspGlpGDCupGlpGBCvpGlpGCC2qGlpGtVC1C5ZBC1D5ZBC2C7YBC2D7YBC2C3ZBC2D3ZBC2ChZ" ++
  "BC2DhZBD3C7Z1YBD3D7Z1YBC4C7YBC4D7YBC4C3ZBC4D3ZBC4ChZBC4DhZBC4C7ZBC4D7ZBC4CdZBC4DdZBD5C4Y0" ++
  "YBD5D4Y0YBD5C4Y1YBD5D4Y1YBC5CdZBC5DdZBC5CgZBC5DgZBD5C7Z6YBD5D7Z6YBC6C7YBC6D7YBC7C4YBC7D4Y" ++
  "BC8C7YBC8D7YBC8C3ZBC8D3ZBC8C8YBC8D8YBC8C7ZBC8D7ZBC8CeZBC8DeZBC9CgZBC9DgZBD9C8Y1YBD9D8Y1YB" ++
  "CbC1YBCbD1YBCbC3ZBCbD3ZBCbChZBCbDhZBCcC3ZBCcD3ZBDcC3Z4YBDcD3Z4YBCcChZBCcDhZBCcCdZBCcDdZBC" ++
  "dC1YBCdD1YBCdC7YBCdD7YBCdC3ZBCdD3ZBCeC7YBCeD7YBCeC3ZBCeD3ZBCeChZBCeDhZBCeCdZBCeDdZBDfC3Y1" ++
  "YBDfD3Y1YBDfC3Y8YBDfD3Y8YBDfC4Y0YBDfD4Y0YBDfC4Y1YBDfD4Y1YBCgC1YBCgD1YBCgC7YBCgD7YBCiC7YBC" ++
  "iD7YBCiC3ZBCiD3ZBDiC3Z4YBDiD3Z4YBCiChZBCiDhZBCjC7YBCjD7YBCjC3ZBCjD3ZBDjC1Y7YBDjD1Y7YBDjCc" ++
  "Y7YBDjDcY7YBDjC3Z7YBDjD3Z7YBCkC7YBCkD7YBCkC3ZBCkD3ZBCkChZBCkDhZBCkCdZBCkDdZBClC4ZBClD4ZBC" ++
  "lCgZBClDgZBClCdZBClDdZBDlC3Y1YBDlD3Y1YBDlC4Y8YBDlD4Y8YBCmC3YBCmD3YBCmC3ZBCmD3ZBCnC0YBCnD0" ++
  "YBCnC1YBCnD1YBCnC8YBCnD8YBCnC7YBCnD7YBCnC3ZBCnD3ZBCoC7YBCoD7YBCoC8YBCoD8YBCpC7YBCpD7YBCqC" ++
  "2YBCqD2YBCqC3ZBCqD3ZBCqChZBCqDhZBC8DhZBCkD8YBCnDaYBCpDaYCCvL7YFC1C3ZBC1D3ZBC1C9YBC1D9YBD1" ++
  "C2Y1YBD1D2Y1YBD1C2Y0YBD1D2Y0YBD1C2Y9YBD1D2Y9YBD1C2Y3YBD1D2Y3YBD1C3Z2YBD1D3Z2YBD1C6Y1YBD1D" ++
  "6Y1YBD1C6Y0YBD1D6Y0YBD1C6Y9YBD1D6Y9YBD1C6Y3YBD1D6Y3YBD1C3Z6YBD1D3Z6YBC5C3ZBC5D3ZBC5C9YBC5" ++
  "D9YBC5C3YBC5D3YBD5C2Y1YBD5D2Y1YBD5C2Y0YBD5D2Y0YBD5C2Y9YBD5D2Y9YBD5C2Y3YBD5D2Y3YBD5C3Z2YBD" ++
  "5D3Z2YBC9C9YBC9D9YBC9C3ZBC9D3ZBCfC3ZBCfD3ZBCfC9YBCfD9YBDfC2Y1YBDfD2Y1YBDfC2Y0YBDfD2Y0YBDf" ++
  "C2Y9YBDfD2Y9YBDfC2Y3YBDfD2Y3YBDfC3Z2YBDfD3Z2YBDfCrY1YBDfDrY1YBDfCrY0YBDfDrY0YBDfCrY9YBDfD" ++
  "rY9YBDfCrY3YBDfDrY3YBDfCrY3ZBDfDrY3ZBClC3ZBClD3ZBClC9YBClD9YBDlCrY1YBDlDrY1YBDlCrY0YBDlDr" ++
  "Y0YBDlCrY9YBDlDrY9YBDlCrY3YBDlDrY3YBDlCrY3ZBDlDrY3ZBCpC0YBCpD0YBCpC3ZBCpD3ZBCpC9YBCpD9YBC" ++
  "pC3YBCpD3YHChzjYBChzkYBDhzjY0YBDhzkY0YBDhzjY1YBDhzkY1YBDhzjY2wBDhzkY2wBChyjYBChykYBDhyjY0" ++
  "YBDhykY0YBDhyjY1YBDhykY1YBDhyjY2wBDhykY2wBClzjYBClzkYBDlzjY0YBDlzkY0YBDlzjY1YBDlzkY1YDCly" ++
  "jYBClykYBDlyjY0YBDlykY0YBDlyjY1YBDlykY1YDCnzjYBCnzkYBDnzjY0YBDnzkY0YBDnzjY1YBDnzkY1YBDnzj" ++
  "Y2wBDnzkY2wBCnyjYBCnykYBDnyjY0YBDnykY0YBDnyjY1YBDnykY1YBDnyjY2wBDnykY2wBCpzjYBCpzkYBDpzjY" ++
  "0YBDpzkY0YBDpzjY1YBDpzkY1YBDpzjY2wBDpzkY2wBCpyjYBCpykYBDpyjY0YBDpykY0YBDpyjY1YBDpykY1YBDp" ++
  "yjY2wBDpykY2wBCvzjYBCvzkYBDvzjY0YBDvzkY0YBDvzjY1YBDvzkY1YDCvyjYBCvykYBDvyjY0YBDvykY0YBDvy" ++
  "jY1YBDvykY1YDC5+jYBC5+kYBD5+jY0YBD5+kY0YBD5+jY1YBD5+kY1YBD5+jY2wBD5+kY2wCC5zkYCD5zkY0YCD5" ++
  "zkY1YCD5zkY2wBC9+jYBC9+kYBD9+jY0YBD9+kY0YBD9+jY1YBD9+kY1YBD9+jY2wBD9+kY2wBC9zjYBC9zkYBD9z" ++
  "jY0YBD9zkY0YBD9zjY1YBD9zkY1YBD9zjY2wBD9zkY2wBChz0YCClz0YCCnz0YCCpz0YCCvz0YCC5+0YCC9+0YEDh" ++
  "zjY5wBDhzkY5wBEhzjY0Y5wBEhzkY0Y5wBEhzjY1Y5wBEhzkY1Y5wBEhzjY2w5wBEhzkY2w5wBDhyjY5wBDhykY5w" ++
  "BEhyjY0Y5wBEhykY0Y5wBEhyjY1Y5wBEhykY1Y5wBEhyjY2w5wBEhykY2w5wBDnzjY5wBDnzkY5wBEnzjY0Y5wBEn" ++
  "zkY0Y5wBEnzjY1Y5wBEnzkY1Y5wBEnzjY2w5wBEnzkY2w5wBDnyjY5wBDnykY5wBEnyjY0Y5wBEnykY0Y5wBEnyjY" ++
  "1Y5wBEnykY1Y5wBEnyjY2w5wBEnykY2w5wBD9+jY5wBD9+kY5wBE9+jY0Y5wBE9+kY0Y5wBE9+jY1Y5wBE9+kY1Y5" ++
  "wBE9+jY2w5wBE9+kY2w5wBD9zjY5wBD9zkY5wBE9zjY0Y5wBE9zkY0Y5wBE9zjY1Y5wBE9zkY1Y5wBE9zjY2w5wBE" ++
  "9zkY2w5wBChz6YBChz4YBDhz0Y5wBChz5wBDhz1Y5wCChz2wBDhz2w5wBChy6YBChy4YBChy0YCChy5wFC8F2wBDn" ++
  "z0Y5wBCnz5wBDnz1Y5wCCnz2wBDnz2w5wBCly0YCCny0YCCny5wBCvtH0YBCvtH1YBCvtH2wBCpz6YBCpz4YBDpz8" ++
  "Y0YECpz2wBDpz8Y2wBCpy6YBCpy4YBCpy0YDCuvH0YBCuvH1YBCuvH2wBC5+6YBC5+4YBD5+8Y0YCC1+jYBC1+kYB" ++
  "C5+2wBD5+8Y2wBC5z6YBC5z4YBC5z0YCC1zkYBC8F0YFD9+0Y5wBC9+5wBD9+1Y5wCC9+2wBD9+2w5wBCvy0YCC9z" ++
  "0YCC9z5wuMCgcIoZBCicIoZTCkcIoZ-CgeIoZBCkeIoZBCieIoZlBC3gIoZFC8gIoZDCbgIoZYC3hIoZCC5hIoZxC" ++
  "shIoZDC3iIoZDC5iIoZCC8iIoZXCtBoZCC1jIoZLCdiIoZBCsBoZBCuBoZBC4jIoZBC5jIoZDCijIoZBCjjIoZDCm" ++
  "jIoZBCnjIoZHCqjIoZBCrjIoZDC2kIoZBC3kIoZDC6kIoZBC7kIoZ3BC2lIoZBC8lIoZBC9lIoZBCblIoZhBCsjIo" ++
  "ZBCtjIoZBChkIoZBCikIoZHCilIoZBCjlIoZBCklIoZBCllIoZvaDCb2Mp4MCCd2Mp4MCCf2Mp4MCCh2Mp4MCCj2M" ++
  "p4MCCl2Mp4MCCn2Mp4MCCp2Mp4MCCr2Mp4MCCt2Mp4MCCv2Mp4MCC13Mp4MDC43Mp4MCC63Mp4MCC83Mp4MHCf3Mp" ++
  "4MBCf3Mq4MCCi3Mp4MBCi3Mq4MCCl3Mp4MBCl3Mq4MCCo3Mp4MBCo3Mq4MCCr3Mp4MBCr3Mq4MXC62Mp4MKCt4Mp4" ++
  "MOCb5Mp4MCCd5Mp4MCCf5Mp4MCCh5Mp4MCCj5Mp4MCCl5Mp4MCCn5Mp4MCCp5Mp4MCCr5Mp4MCCt5Mp4MCCv5Mp4M" ++
  "CC16Mp4MDC46Mp4MCC66Mp4MCC86Mp4MHCf6Mp4MBCf6Mq4MCCi6Mp4MBCi6Mq4MCCl6Mp4MBCl6Mq4MCCo6Mp4MB" ++
  "Co6Mq4MCCr6Mp4MBCr6Mq4MXC65Mp4MDCf7Mp4MBCg7Mp4MBCh7Mp4MBCi7Mp4MECt7Mp4Mb6lBCie1C7YxCqe1C7" ++
  "YmlCCp44Cq54CCCr44Cq54CPC554Cq54C3ECh94C794CBCi94C794CsQC7q4Cup4CBC7q4Cnq4CnBC2s4C9u4CCC4" ++
  "s4Crt4CJCbs4C2u4CDCgs4C9u4CkBC2u4C2u4CCC2u4Cot4CBC2u4C9u4CjHCp55Cq55CBCp55Cg55CCCp55Ct55C" ++
  "sHCod5Cfd5CBCpd5Cfd5CtxCl96Cg96C9vRCu8oCu8oCBCu8oC99oCBCu8oCv8oCBC99oCv8oCBCu8oC09oCBDu8o" ++
  "Cu8oCv8oCBDu8oC99oCv8oCBDu8oCu8oC09oC02DC7brC7brCBC3brC7brCBD3brC7brC7brC"

/-- The characters that are decomposed and never come back, with their full decompositions. -/
def decompositions : Mapping := .ofPacked (
    "0wCBvDDBBvChBBBlLKBB5kBJBBvcBn1HBB90OhBBBtoPOBBhkPDCBE6JBBpnOEBBtdQvPCBudGnelBBBfbmBBBB" ++
    "p09CBBBf3lBBBBl3mBBBB535CBBB5dlCBBB1iiCBBBlmcBBBBnmcBBBBfrfCBBBhjjBBBB7ohCBBB7sfCBBBdhb" ++
    "CBBB9a1CBBBjosBBBB1dpBBBBdloBBBBj1oBBBB78kBBBB3h7CBBBjv5CBBBp34CBBBhj2CBBBldqBBBBtqjBBB" ++
    "BhifBBBBh9lCBBBdqiCBBBh17CBBB5g3CBBB3fpBBBB3gdBBBB1tdCBBBdj4CBBBblpBBBBvrnBBBBn5bCBBBrk" ++
    "rBBBBfgoBBBBr5dCBBB319CBBBvr5CBBBt23CBBBr5kBBBBdqkCBBBdnjCBBB15jCBBBn6aCBBBr57CBBB3i3CB" ++
    "BBn41CBBB5jsBBBBtipBBBBjdpBBBBfklBBBBb0hBBBBjseBBBBvjdBBBBta0CBBBprvBBBBpptBBBB9nqBBBBl" ++
    "3jBBBB1cdBBBBl6nBBBB56gCBBBt3dCBBB7euBBBBdcsBBBB7e3CBBBp70CBBBb8mBBBB35hBBBB37gCBBBheeC" ++
    "BBBhj7CBBB5n5CBBBt35CBBBv1uBBBBhhtBBBBbghBBBBv7jCBBBfcsBBBBfnjCBBBhojCBBBjjvBBBBhptBBBB" ++
    "dmqBBBB7ehBBBBjtmBBBBn8bCBBBjl7CBBBt5nBBBB9ilCBBBfneCBBBrkcCBBBjt2CBBB3v1CBBBn4jCBBBh60" ++
    "CBBBbqkCBBBprcCBBBjllCBBBn96CBBB1v9CBBBf4uBBBBfqiCBBBrggCBBBn61CBBB9iqBBBB9cnBBBBbr6CBB" ++
    "B1skBBBBje6CBBB97bCBBBt8rBBBB9taCBBB112CBBBhclCBBBt0kCBBBvqjCBBBhf8CBBB79uBBBBpgrBBBBla" ++
    "nBBBBtqjBBBBj8jCBBBrjiCBBBr0gCBBBb9dCBBBrr9CBBBbo4CBBBl50CBBBhthBBBBphfBBBB1fdBBBBlbdBB" ++
    "BBtejCBBB9c9CBBB917CBBBl2lBBBBjhdCBBBtvbCBBBvobCBBBdfaCBBBt65CBBBj44CBBBlg2CBBBlsvBBBB3" ++
    "qtBBBBfisBBBB37lBBBBlaqBBBBdnkBBBB15jBBBB9ojCBBBjfjCBBB1eiCBBBdd4CBBBrdoBBBBdfnBBBBhddC" ++
    "BBBrqcCBBBh2bCBBBdv6CBBBfmuBBBB333CBBB7clCBBBvahCBBB5seCBBB1vdCBBBvocCBBBlv2CBBB9k2CBBB" ++
    "91tBBBBjmsBBBBpnjBBBBnbhBBBBl6hBBBBnpgBBBBj2lCBBBf00CBBB50kBBBBvfhBBBBfdcCBBB7jlCBBB1ek" ++
    "CBBBrseCBBBrneCBBB92aCBBBpr7CBBB3v3CBBBtn1CBBBbcqBBBBdkkBBBBd3dBBBBpj9CBBBfphBBBBrjjCBB" ++
    "Bp49CBBBbt8CBBBh86CBBBti5CBBB5s2CBBB772CBBB5m0CBBBtbuBBBB3ngBBBB76kCBBB7qbCBBBllhBBBBhq" ++
    "kCBBBnbeCBBBnu5CBBBpalBBBBp4dCBBB99cCBBB5s8CBBB753CBBBblhBBBB7rjCBBBtsiCBBBjneCBBBps9CB" ++
    "BB599CBBBjj8CBBBrf6CBBBrt2CBBB502CBBBp6tBBBBfhoBBBBdgoBBBBp1kBBBBfghBBBBnajCBBB3j5CBBBv" ++
    "siCBBBr14CBBBdl2CBBBbvpBBBBrkhBBBBlpeBBBB7ldBBBBp59CBBBj26CBBBr0sBBBBnivBBBBfdvBBBBdmuB" ++
    "BBBjj3CBBB3m4CBBB7anBBBBpjlCBBBfcrBBBB9sjCBBBhvjCBBBlldCBBBtibCBBBpiuBBBBt7fCBBBde6CBBB" ++
    "3l9CBBBnclBBBBnroBBBBnrhBBBBt7oBBBBfjdCBBBnckCBBBp4iCDBBbrgCCBBrp9CDBBd3kCBBBne3CBBBpk1" ++
    "CBBBnd0CBBBlb0CBBB9b0CBBBn80CBBBbchBBBBtluBBBB16tBCBBr0qBCBBjinBDBBpukBBBBhikBEBBljgBBB" ++
    "BtigBBBB7ggBBBBh7eBBBBvkkBBBBfnhBBBB38lCBBBjkkCBBB9ekCBBBjmjCBBBvkjCBBB7ejCBBBh9iCBBB13" ++
    "iCBBBvshCBBBhvgCBBB3pgCBBBdteCBBBrseCBBBhqcCBBBbdcCBBB1bcCBBBr4cCBBB3faCBBBv5aCBBB3r9CB" ++
    "BBtr8CBBBrc6CBBBn26CBBB9i5CBBBjd4CBBBr14CBBBf23CBBBjr0CBBBrg0CBBB7g0CBBBbg0CBBBtf0CBBBj" ++
    "f0CBBB7f0CBCB9c0CCBB710CBBB7tvBBBBb9vBBBB56uBBBBt4uBBBBf1uBBBBfetBBBBb5tBBBBt6sBBBB7urB" ++
    "BBB9urBBBBf0rBBBBvkoBBBBlcoBBBB1mnBBBBjinBBBB1pmBBBBplmBBBBvalBBBBt2lBBBB9ohBBBBj6hBBBB" ++
    "t2hBBBBbvcCBBB484FBBB95sBDBBj4mCBBBnbkCBBBjgkCBBB5flCBBBtikCBBB9fkCBBBtqjCBBBpnjCBBBldi" ++
    "CBBB7iiCBBB1eiCBBBh9iCBBB32hCBBBjsgCBBBjjgCBBBligCBBBr1gCBBBhlfCBBBvqdCBBBjqdCBBBlhdCBB" ++
    "BfddCBBBrqcCBBBhjcCBBBvncCBBBlfcCBBBjicCBBBh9cCBBBf5cCBBBhcbCBBB37bCBBBp3bCBBBjjaCBBBp1" ++
    "aCBBBln9CBBBfn9CBBBrj9CBBBnh7CBBBnd7CBBBbl6CBBBpr5CBBBrs5CBBBfn5CBBBp75CBBBri4CBBBbf1CB" ++
    "BBh64CBBBvu3CBBBbn3CBBBv23CBBBnp2CBBBfm2CBBBd82CBBBb82CBBBnt1CBBBns1CBBB7r1CBBBtl1CBBBj" ++
    "m1CBBBtt0CBBBlvvBBBBpevBBBB53vBBBB7luBBBBnbuBBBB5ntBBBBpatBBBB1mrBBBB9crBBBBnjpBBBB9noB" ++
    "BBB1joBBBB3ioBBBBjvnBBBB3snBBBBvunBBBBlrnBBBBtrnBBBB1tnBBBBbonBBBBbjnBBBBhrmBBBBjolBBBB" ++
    "15lBBBBlikBBBBt4kBBBBj4iBBBB7uhBBBB3nhBBBBrehBBBBlchBBBBvbhBBBB19hBBBBlrfBBBB3jdBBBBmnm" ++
    "EBBB8nmEBBB8gsEBBB9jvCBBBlbtCBBBl9tCBBB8nbFBBBkvgFBBBov1GBBB9pdBBBBlkdB79vDBB5skKBBBhsk" ++
    "KBBB1skKBBB1erDBBB7akKBBBd5kKBBBl4kKBBB90kKBBBrojKBBBvmjKBBB5ijKBBBnjjKBBBrm1LBBB5toDBB" ++
    "B1cjKBBBlbjKBBBnajKBBBj9jKBBBbfpDBBBjl1LBBBpajKBBBf8jKBBBlcpDBBBv7jKBBB77jKBBBpkkKBBBr6" ++
    "jKBBBb6jKBBBp3jBBBBf2jKBBBl1jKBBBvj1LBBB9uiKBBBltiKBBBvqiKBBBnqiKBBBtg1LBBBrliKBBBpliKB" ++
    "BB5kiKBBBriiKBCB7iiKCBB7hiKBBB5eiKBBBndiKBBB7diKBBBnbiKBBB5biKBBB3biKBBB5biKBBB7biKBBBf" ++
    "0nDBBB9s3KBBBn6iKBBBf5iKBBB9dmDBBBr4iKBBBh4iKBBB93iKBBBrphKBBB90iKBBBbvhKBBBdthKBBBrphK" ++
    "BBBlkhKBBB3jhKBBBvehKBBB1ehKBBB1chKBBB3chKBBBrahKBBBp9hKBBBb9hKBBBf8hKBBB9jgKBBBb4hKBBB" ++
    "bjgKBBBpvgKBBBltgKBBBh4jKBBB5mfKBBB78gKBBBt5gKBBBd4gKBBBjcgKBBB72gKBBBb2gKBBBnqfKBBB9nh" ++
    "DBBBfmfKBBB7mfKBBBblfKBBB5kfKBBBnjfKBBBpffKBBBfrgDBBBdngDBBBb7fKBBBf4fKBBBp3fKBBBp8fKBB" ++
    "BvveKBBBhn0LBBBnm0LBBB1meKBBBnieKBBBpieKBBB7afDBBBjaeKBBBb9eKBBBf8eKBBBp7eKBBBhleDBBB57" ++
    "eKBBBp6eKBBB1icKBBB55eKBBB9f0LBBBd1eKBBBj0eKBBBhrdKBBBpudKBBBd9dDBBBhjdKBBBd9dDBBBvgdKB" ++
    "BB7hdKBBB7gdKBCBv9dKCBB750LBBBd8dKBBBp5dKBBBh4dKBBBr1dKBBBb20LBBBbgbDBBBr00LBBBltcKBBBh" ++
    "tcKBBBdtcKBBB7scKBBBpfaBBBB3pcKBBBvlaDBBB1maDBBB39rJBBB3ncKBBB5ncKBBBtsvKBBBtt2DBBBrbbC" ++
    "BBBdjcKBBBticKBBBfrvKBBB3gcKBBBvccKBBBdccKBBBbacKBBBt1cKBBBdmvKBBBbovKBBBt0cKBBBvs8DBBB" ++
    "rtbKBBBrlbKBBBllbKBBBjlbKBBBplbKBBBvibKBBBphbKBBBjfbKBBBhgbKBBBtfbKBBB1dbKBBBrbbKBBBlbb" ++
    "KBBB3abKBBBf9bKBBBd5bKBBB70bKBBB3uaKBBBdmaKBBBnq6DBBBnnaKBBBrraKBBB5laKBBBhjaKBBBhdaKBB" ++
    "Bpc6DBBBp9aKBBBlfaKBBBfhaKBBB79vKBBBj5aKBBBb4aKBBBf2aKBBBt4aKBBBl5vKBBBhn9KBBBpl9KBBBvb" ++
    "4DBBBfe9KBBB7t8KBBB789KBBB9ruKBBBr39KBBBfsuKBBBpuuKBBBvjjKBBBrjjKBBB7t8KBBBh39KBBBh2sJB" ++
    "BBrfqKBBB1s8KBBBrr8KBBBhr8KBBBpn8KBBBho8KBBBjh2DBBB9puKBBB9e8KBBBll8KBBBt88KBBBp58KBBBb" ++
    "72DBBBb58KBBBbc8KBBB3t7KBBBjkuKBBBbq7KBBBbk7KBBBvf7KBBB547KBBBh41DBBB317KBBBbduKBBBrs6K" ++
    "BBBh40DBBBpp6KBBB7auKBBB1o6KBBB9l6KBCBlj6KCBBj6vCBBBpudDBBBtvuCBBBna6KBBBt3uCBBBp36KBBB" ++
    "v26KBBBd96KBBBhu5KBBB3s5KBBBjo5KBBB1s5KBBBjp5KBBBno5KBBBvn5KBBBfutCBBB5t5KBBBhd5KBBBl95" ++
    "KBBBdttKBBBv35KBBB945KBBBn3tCBBB9h5KBBB1q4KBBB3rsCBBB5osCBBBnk4KBBBjd4KBBBbf4KBBBjf4KBB" ++
    "BvntKBBBpc4KBBBl94KBBB3a4KBBBp64KBBBbvpDBBBdt3KBBBjbrCBBB3o3KBBB7nqCBBBff3KBBBne3KBBB3d" ++
    "3KBBBlhpCBBB7a3KBBBv83KBBB1voCBBB5hoCBBBrq2KBBBrp2KBBBr7tKBBBbo2KBBB77tKBBB97tKBBBde2KB" ++
    "BB5d2KBBBtb2KBBBna2KBBBf62KBBBf1tKBBBv02KBBBtfmCBBBfv1KBBB9amCBBBfs1KBBBjpbDBBBji1KBBBj" ++
    "pkCBBB7okCBBBhfkCBBB3ksKBBBdjsKBBBn41KBBBr4kCBBBv4kCBBBj2kCBBB11kCBCBd21KCBBf21KBBBrv0K" ++
    "BBBvgsKBBBtr0KBBB9gsKBBBbbsKBBBviiCBBBvf0KBBB5c0KBBB780KBBBr6sKBBBnihCBBBpvvJBBBjbhCBBB" ++
    "v8hCBBBdsvJBBBnmvJBBBh2sKBBBhhvJBBBvgvJBBBngvJBBBvtfCBBBbbfCBBBdbfCBBB17vJBBBrlrKBBBbre" ++
    "CBBBnpuJBBBjpuJBBBpjrKBBB9eeCBBB79uJBBBdcrKBBBv7uJBBBb8uJBBBj6uJBBB9ucCBBBh0uJBBBn6rKBB" ++
    "BdqtJBBBpmtJBBBlitJBBBp3rKBBBjkbCBBBnibCBBBl1rKBBBn9bCBBBnvsJBBBh3bCBBB5usJBBBtnsJBBB9n" ++
    "sJBBB1aaCBBBh5aCBBBphsJBBBbt9CBBBtgsJBBB123DBBBnqqKBBBvcsJBBBv7sJBBBhnqKBBBd4sJBBB1dfKB" ++
    "BBvt8CBBB5t8CBBBbv2DBBBru2DBBBjorJBBBforJBBBtukJBBB5iqKBBBrfrJBBB9grJBBB7frJBBBtdjKBBB3" ++
    "erJBBB1erJBBBfdrJBBBvarJBBBl57CBBB5brJBBBn7rJBBBd3rJBBBruqJBBBh7rJBBBvtqJBBBdrqJBBBfkqJ" ++
    "BBBp4rJBBBdtqJBBBbtqJBBBdsqJBBBrm6CBBBj36CBBB1d6CBBBn7qKBBBdbqJBBBbbqJBBB79qJBBB1u2CBBB" ++
    "f4qJBBB185CBBB15qKBBBr4qKBBBtv4CBBBtd4CBBBd4qKBBB5mpJBBBflpJBBBrkpJBBBpkpJBBBrgpJBBBvip" ++
    "JBBBlapJBBBfdpJBBB34pJBBB79pJBBB35pJBBBf3pJBBBfupKBBBttoJBBBvroJBBBhspKBBB5moJBBB1moJBB" ++
    "Brl1CBBBteoJBBBheoJBBB5ppKBBBtcoJBBBtg2LBBBph0CBBBb60CBBBtgpKBBBdgpKBBBtinJBBB5enJBBBd4" ++
    "nJBBBpnmJBBBliuBBBBhimJBBB7hmJBBBlbmJBBBv5mJBBBhatBBBB9toDBBBt0mJBBBt1mJBBBnulJBBBtfoDB" ++
    "BBjglJBBBdalJBBBr0qBBBB7vpBBBBrkkJBBB3fkJBBB5dkJBBBdbpBBBBlckJBBBtqjJBCB1hjJCBBrmjJBBB3" ++
    "viJBBBdtiJBBB5vmBBBB56iJBBBj5oKBBBh3iJBBBj7mBBBBn0oKBBBvihJBBB34eKBBB3dhJBBB1bkBBBBptjB" ++
    "BBBjonKBBB5onKBBBj1hJBBB1viBBBBjknKBBBdmiBBBB5vgJBBB7vgJBBBdtgJBBBl4iBBBBvhgJBBBvcnKBBB" ++
    "ldgJBBBr5gJBBB74gJBBBh0gJBBBj3nKBBBhdfBBBBfffJBBBlseJBBBtgeJBBBtjmKBBB1imKBBBfaeJBBB3kc" ++
    "BBBBhhmKBBBpgcBBBB90cBBBB5obBBBBjldJBBBvbmKBBBrhdJBBBjhdJBBB7hdJBBBlgdJBBB9gdJBBB1edJBB" ++
    "Bp1aB") (
    "4wC8Y1YkgBCl8Cs9CBCm8Cs9CBCn8Cs9CBCs8Cs9CBC19Cs9CBC29Cs9CBCb9Cs9CBCf9Cs9CtDC1dCsdCBC2dC" ++
    "sdCCCfdCsdCkCCihCshCDCohCshC3BCmgCshCBCngCshCBCsgCshCDCbhCshCuHC1pCspCBC2pCspC6-C2qDntD" ++
    "KCcqDntDFChqDntDFCmqDntDFCrqDntDNC0qDltDKChrDirDCChrDkrDBCitD0sDCCjtD0sDJChrD0sDSCisDnt" ++
    "DKCssDntDFC1tDntDFC6tDntDFCbtDntDNCgsDltDotDChz1YCClz1YCCnz1YCCpz1YCCvz1YCC5+1YCC9+1YuB" ++
    "Chy1YOCly1YCCny1YIDpz8Y1YICpy1YID5+8Y1YIC5z1YDC8F1YLCvy1YCC9z1YgJC1CaYhdCCtmKoZ12kBCpeB" ++
    "kdBCCifBndBLC9fB1eBBC9fB2eBBD9fBsdB1eBBD9fBsdB2eBBCgeBndBBCgeBodBBCgeBsdBBCheBsdBBCieBs" ++
    "dBBCjeBsdBBCkeBsdBBCleBsdBBCmeBsdBCCoeBsdBBCpeBsdBBCqeBsdBBCreBsdBBCseBsdBCCueBsdBCC0fB" ++
    "sdBBC1fBsdBCC3fBsdBBC4fBsdBCC6fBsdBBC7fBsdBBC8fBsdBBC9fBsdBBCafBsdBBCleBpdBBCheBvdBBCre" ++
    "BvdBBC4fBvdBgglBCnakD5bkDBCoakD5bkDBDoakD5bkDebkDBDoakD5bkDfbkDBDoakD5bkDgbkDBDoakD5bkD" ++
    "hbkDBDoakD5bkDibkDnCCpdkD5bkDBCqdkD5bkDBDpdkD5bkDebkDBDqdkD5bkDebkDBDpdkD5bkDfbkDBDqdkD" ++
    "5bkDfbkD")

/-! ## Hangul syllables -/

def hangulFirst : Nat := 0xAC00
def leadFirst : Nat := 0x1100
def vowelFirst : Nat := 0x1161
def trailBase : Nat := 0x11A7

/-- Nineteen leading consonants, twenty-one vowels and twenty-seven trailing consonants or none. -/
def hangulCount : Nat := 19 * 21 * 28

/-- The letters of a Hangul syllable. -/
def hangulLetters? (n : Nat) : Option (List Nat) :=
  if hangulFirst ≤ n ∧ n < hangulFirst + hangulCount then
    let i := n - hangulFirst
    let letters := [leadFirst + i / (21 * 28), vowelFirst + i % (21 * 28) / 28]
    some (if i % 28 = 0 then letters else letters ++ [trailBase + i % 28])
  else none

/-- The Hangul syllable of letters. -/
def hangulSyllable? : List Nat → Option Nat
  | [l, v] => syllable? l v 0
  | [l, v, t] => if trailBase < t ∧ t < trailBase + 28 then syllable? l v (t - trailBase) else none
  | _ => none
where
  /-- The syllable of a leading consonant, a vowel and the number of a trailing consonant. -/
  syllable? (l v t : Nat) : Option Nat :=
    if leadFirst ≤ l ∧ l < leadFirst + 19 ∧ vowelFirst ≤ v ∧ v < vowelFirst + 21 then
      some (hangulFirst + ((l - leadFirst) * 21 + (v - vowelFirst)) * 28 + t)
    else none

/-! ## Normal form -/

/-- The full decomposition of a character. -/
def decompose (c : Char) : List Char :=
  if c.toNat < 0xC0 then [c]
  else match hangulLetters? c.toNat with
    | some letters => letters.map Char.ofNat
    | none =>
      match compositions.lookup c.toNat with
      | some codes => codes.map Char.ofNat
      | none => (decompositions.image? c).getD [c]

/-- Inserts a character behind all of a run of marks whose class is not above its own; `reversed` holds the text
so far, last first. -/
def insertMark (c : Char) : (reversed : List Char) → List Char
  | [] => [c]
  | d :: rest =>
    if combiningClass c ≠ 0 ∧ combiningClass c < combiningClass d then d :: insertMark c rest
    else c :: d :: rest

/-- The text with every run of marks in order of their classes, marks of one class as they came. -/
def orderMarks (cs : List Char) : List Char :=
  (cs.foldl (fun reversed c => insertMark c reversed) []).reverse

/-- The character with a given full decomposition. -/
def composite? (letters : List Nat) : Option Nat :=
  match hangulSyllable? letters with
  | some n => some n
  | none => (compositions.find? (·.2 = letters)).map (·.1)

/-- What composition has reached: the finished text, last character first, then the combination that is being
built as one character and as its letters, and the marks that it could not take in, last first. -/
structure Composing where
  done : List Char := []
  head : List Char := []
  letters : List Nat := []
  marks : List Char := []

/-- The composite of the combination and a further character. Nothing joins over a mark of the same or a higher
class, or over anything that starts a combination. -/
def Composing.join? (s : Composing) (c : Char) : Option Nat :=
  let blocked := match s.marks with
    | [] => false
    | mark :: _ => combiningClass c ≤ combiningClass mark
  if s.head.isEmpty || blocked then none else composite? (s.letters ++ [c.toNat])

/-- Takes in one character. -/
def Composing.push (s : Composing) (c : Char) : Composing :=
  match s.join? c with
  | some n => { s with head := [Char.ofNat n], letters := s.letters ++ [c.toNat] }
  | none =>
    if combiningClass c = 0 then
      { done := s.marks ++ s.head ++ s.done, head := [c], letters := [c.toNat] }
    else { s with marks := c :: s.marks }

/-- Composes a decomposed text with its marks in order. -/
def compose (cs : List Char) : List Char :=
  let s := cs.foldl Composing.push {}
  (s.marks ++ s.head ++ s.done).reverse

/-- The composed normal form of a text. -/
def normalForm (cs : List Char) : List Char :=
  if cs.all (·.toNat < 0x300) then cs else compose (orderMarks (cs.flatMap decompose))

end EventRules.Text
