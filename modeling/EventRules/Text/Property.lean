import EventRules.Text.CharSet

/-!
# Properties of characters

The properties of Unicode that a character has or has not, by their long and short names in small letters without
underscores.
-/

namespace EventRules.Text

/-- The names of each property and its characters as packed ranges. -/
def binaryProperties : List (List String × String) := [
  (["bidicontrol", "bidic"], "sgBAhfGBwEnBD"),
  (["bidimirrored", "bidim"],
    "8BBSABAyABAzABAdBAPAujDDtqBBscCBKBmBBOBhFA0GDDFDADBDDBDBABAEIFABRFDJBBABHB-CDFAJBCSFBJE" ++
    "CBEXCPIDUBHBt1BNaCACDBBBCFDFCDNjMVCFBNIAHFDAEEBBCEEABCCBKFCBMSBDCABACABDFBGCYBLBEDBBCBE" ++
    "aBCHB7BFABADEFCEADEBA0IA3QDDBBBOBCJbBHbNJCHthjBFFB2FBSABAyABAzABABBBBnrlBApBApBApBApBA"),
  (["asciihexdigit", "ahex"], "gBJHFwF"),
  (["alphabetic", "alpha"],
    "1CZGZfBAKAEAFWB+B9OELOEHABAmCAzRBBCDBAGABCBABTBiCBaEI5FB5BCAG8B7BNBABBBBBAIwEDzKFnBBGO5" ++
    "DBHEHECKCCAQfBN4DY0BJBEAFXCSTYHKFXBGHAI9BKLDGGbCBPBCEONSBHCBCVBGBADDDHCBCBBAIAEBBEMBKAE" ++
    "CBFEBCVBGBBBBBBEEEBCBEAHDBARFLCBIBCBVBGBBBEDIBCBBDAPDVDECBHCBCVBGBBBEDHCBCBJBEBBENAQBBF" ++
    "DCBDDBBABBDBDCDLEEDCBCDAGA8BMBCBWBPDHBCBCIBBCBBCDyDBHBCBWBJBEDHBCBCIBFCBDNCMMBCB8BCHBCB" ++
    "CBAFDHEWFBCBRDXBIBACGIFBABHSBNpBFGGAjBBBABEBXBABSBCCEBAGAOD0BAvBHB3BESEPB3B3CmBBACEQvBK" ++
    "DC5BBAFACaBBcKBDCGBABDC8BBDC0BBDCGBABDCOBoBBDC2C5BPQlCCFDbTCQBZFaCDKHTLUMTMMBCBBMjBCSOA" ++
    "EA3CoCHaBF5CK+BLEIXzCELbBEZmBxEuBCTiBAXBLChBjBBOBHjB9BCDKbBBKOmBWCK3BCKFaBCC9BDBFBBDAFv" ++
    "FT1BLlICFC5BCFCHBABABAB+CkBBGBADCBGDDCFEMFCBGkDANAQM5DAEACJBADEGABABABDBKCDFEEAR8BdZjBm" ++
    "oB4HGDDBM5BBAFACnBHAQWJGBGBGBGBGBGBGBGB-fBAlOCZIHECEElCGCBpCBDFaBBtCR-gBP0QvdG0CckV3CdB" ++
    "CcIDPKBUeBFHDgD7BIC6DChCUUB0BYjBM3CBAcBFDABCK0BF2BNyDiBBLPAQPKEBmBJNSWD4CBABAYCCPCDLFCF" ++
    "CFJGBGBaBBNGqDV3tKMWEgB48IdLC9D6BGMEFLBMBEBABBBBBbD1BaLSvBClB8BLkDEB6E4BZGZLoCDFCFCFCC3" ++
    "BLBZBSBBBOCN2BqD5CkBbIyDgBfB-NzFaBFzC3BEHBEaBtES3BE3BE7BIjBMKBOBGBBBKBOBGBBDjBMmJJVKHYF" ++
    "B9BBI5CFCABbBBBDACWKWJ+1CSBBKVKZGZ6BnBGB0CDBBFHBCByaByDy3BHBxxlBKVKSNReD8CnBiBNiBN7B2Bx" ++
    "DAFWqH9BBBDBQFiBCDyKAIVaBReBUxWJ5CbBEKoBJANYXiBRDI2BDAJvBBDJBKABA3BRB1BCAGDuBGBABDBOBJH" ++
    "oBXDBHCBCVBGBBBEDHCBCBDAGAFGyJBACAB5BBJBACABDBBDABAcB1CBCBDUC+1CCBBAoFlBCGZF2BuBBADArBl" ++
    "BCA7CwCNVGpFoB7DvB-HCACHBBBzBBCBCDtCHCdBCFBABBxiBCJR7CFAS8C7DHoC0B-IBcBBGBAhBzCVBN9CGBB" ++
    "BbBDABBBCBACBYFBBB4BBBBDBAXbB4IWJQB8BDCfDAfCpy6DeDR3GciC0DPf1BRFZqsDF6SplGeBhmBoRH+ReCR" ++
    "zSfBQD-UFSgNcBjGvB0BYCYcBaCEoBHQ0CBBAMGJl6H9B-1DiDtfIDBGBBB2JPAzCCAODIbM48CaDFMDIHJEA1r" ++
    "FkCB6CBBCACBCDBLBABGB0CBDCHBGBxBDBEBADGBjKCYBYB+BYB+BYB+BYB+BYBHkpB+GFlGGBQCGBBBEFtB1BA" ++
    "gDcBKGQA1KzSbB4Px4HzCAfG+BVIB0HGBDBBBOB4GrB3CDADAk5BDBwBBBACABJBDBABAGAEABABABCBBBACABA" ++
    "BABABABBBACDBGBDBDBABJBQFCBEBQkTZGZGZmjDvm9B0Bt8ECdkFCg9HPdT2dCtQ2fBaqEF99I"),
  (["caseignorable", "ci"],
    "7BAGALA3BABA7CAEABAEACBnPvFEBEAJBBArHGfGAFAhBcBBABBBBBAcBALFKKBA3BAKUQA5DHBJBD1BABA+wrC" ++
    "KqBKEACAYXbBCcBAHBFI9BpBnBABAEHEADGKBNAPAqBAEDIAUBwACBpBAEBEBCCDA+BDALBpBAEEBBEAUBWFBAq" ++
    "BACABDIAHBLB+AtBAMAiBADAnBABCFCBDHBLBzAqBACAGAFBUByBpBBEDIAUBzA8CAHCBAqCACGLI2DACIJABG9" ++
    "CBxABABAnBNBEBBFKB3BJA6DDBFBBCBZBECQDNACBGAPAuCA0TCizCzB+B+B0CBBGIACKDAFAdBEjBA1CB2BAmD" ++
    "CEBJAGCrGBCAqBABGBABACHGJCA7BAIdBCLUDgBABEBAFA8BIMB0BDCBBCoBABBDABCqBHCB0CFiCCBMBGEAGAD" ++
    "BiBuBNA2B4DtNABCLCNCNCNBMEIBKACACEhBEBJBANAQMjB0BbsCBhDCtDAPA0D-fBAlOA4BDDEFAtCFtCCmoxA" ++
    "27BFeIA2DDBJBAyDgCBO1BeCAXC6DDDBIADAEAZBFAnEBwRNA6BHZKeBCgBACDCBRAVB2CFCBCBMAIA3BALAjBA" ++
    "BCCBFBBAxAOBFBBA4DEJCpDACAEAgpTAjEQtRPDAMP2BACA9FAHAGALA3BABAfBAdBB3CAVC1QA2HAlEE50BFB9" ++
    "BBI6SCBBFD8BCEA5FBtRD6BAwEBArJBYAkBF6CKhBDrDAmBO9BACBKChBDCBCAEAKAiBC4BEBHuBAMBkBIKDCAv" ++
    "CCCABBGACAtEADHVBpBBDA5BGDE6CFNABABAOBlCHCCBAXAkCFBAEBBBeHDGBBBxBlCHCABBaDABACFBA5DABAC" ++
    "DBE3IIBB0IBBAEAgEDCBEA0BJ8BFCDIAJFCCeBMBB6GABCBA9GGBFBAiCVCGBBBBqDFDABBBGBA8CBDABA1CApI" ++
    "BLBkBEFABAXAl6FQGO86LLDC0eCErBGJDsPC8BB2PAvBQ0CBBBNBsvPDBGBBu4DBBDsiEdBCW0RCJPCG+DkECrt" ++
    "BmBEhBIAOAWEBOgaBGBQCGBBBEFtB1BA0FNgLAtBDrPEuHBjHACAHBFAJAgOGdDHflCE103YA+vC0EfH"),
  (["cased"],
    "1CZGZfBAKAEAFWB+B2GBDEfGC2BHB+E0DAaBDCBCDBAGABCBABTBiCBaEI5FB5BJ8BnoC5BBAFACaBBD0VlCCF2" ++
    "4CKFaBCC0CvF0ClICFC5BCFCHBABABAB+CkBBGBADCBGDDCFEMFCBGkDANAQM5DAEACJBADEGABABABDBFEACDF" ++
    "EEAR-DBhZjBmoB4HGDDBM5BBAFAi8+dBSz4E5DDDBcCUFBClZaBBNGfC0qTGME90BZGZ55BfC0D3BE3BkDKBOBG" ++
    "BBBKBOBGBB3OACCB9BBI56BiBNiBtCVKVqoCvB0bVvB0BYCYc9ZkCB6CBBCACBCDBLBABGB0CBDCHBGBxBDBEBA" ++
    "DGBjKCYBYB+BYB+BYB+BYB+BYBHkpBJBTGF5ItBi4C3CcvBZGZGZ"),
  (["changeswhencasefolded", "cwcf"],
    "1CZqCAKWBH0BABABABABABABABABABABABABABABABABABABABABABABABABABABABACABABABABABABABABBBA" ++
    "BABABABABABABABABABABABABABABABABABABABABABBBABABABBBABBBCCDBBBCDBBBBABABBBACABBBCBABBD" ++
    "AHBBBBBBABABABABABABABACABABABABABABABABACBBABCBABABABABABABABABABABABABABABABABABABABA" ++
    "BABABABABABABABABAHBBBCABDBABABABAmHAaBABADAIAGABCBABBBQBIWAMCDBBABABABABABABABABABABAB" ++
    "ABBCBBABBCiBgBABABABABABABABABABABABABABABABABAJABABABABABABABABABABABABABABABABABABABA" ++
    "BABABABABABABABBBABABABABABACABABABABABABABABABABABABABABABABABABABABABABABABABABABABAB" ++
    "ABABABABABABABABABABABABABABABABABABAC5BgBAooC5BBAFAaZF24CJGaBCC0KABABABABABABABABABABA" ++
    "BABABABABABABABABABABABABABABABABABABABABABABABABABABABABABABABABABABABABABABABABABABAB" ++
    "ABABABABABABABABABABABABABABABABABABABABAFBCABABABABABABABABABABABABABABABABABABABABABA" ++
    "BABABABABABABABABABABABABABABABABABABABABABABABABABABAJHIFKHIHIFLABABABAIHQfBCCCFFCCFLD" ++
    "MEFCCF9JADBGAdBPTAiZZgpBfBgBABCCABABABDBACAICBABABABABABABABABABABABABABABABABABABABABA" ++
    "BABABABABABABABABABABABABABABABABABABABABABABABABABABABAIABAEAda+ABABABABABABABABABABAB" ++
    "ABABABABABABABABABABABATABABABABABABABABABABABABABA7EABABABABABABADABABABABABABABABABAB" ++
    "ABABABABABABABABABABABABABABABABABABABABAKABABBBABABABAEABACABADABABABABABABABABABABEBE" ++
    "BABABABABABABABDBABBBABABABABABABABAYAqxfC0qTGME90BZ56B7B8E3BsEKBOBGBBanBiBtEVqpC-0cV-0" ++
    "CY7i+1B"),
  (["changeswhencasemapped", "cwcm"],
    "1CZGZqBAKWB+BvBBjCBxCNCBBAEsCBRGwBBBABBDBBDBECABBCAHACABBDFFAKB6FAaBDCBDCBAGABCBABTBeBD" ++
    "0BBEB4EI5FB5BK6BooC5BBAFACaBCC0VlCCF24CKFaBCCpFADAQAhDrECABlDCFC5BCFCHBABABAB+CkBBGBADC" ++
    "BGDDCFEMFCBG9JADBGAxAR-DBhZjBmoBgDBBBBH5DHDDBM5BBAFAi8+dBSx6ENCtBJODCCEBYBcBYBswAyfC0qT" ++
    "GME90BZGZ55BfC0D3BE3BkDKBOBGBBBKBOBGBB3mBiBNiBtCVKVqoCvB0bVvB0BYCYch+3C"),
  (["changeswhenlowercased", "cwl"],
    "1CZ5DWBG1BABABABABABABABABABABABABABABABABABABABABABABABABABABABACABABABABABABABACABABA" ++
    "BABABABABABABABABABABABABABABABABABABABABBBABADBBABBBCCDBBBCDBBBBABABBBACABBBCBABBDAHBB" ++
    "BBBBABABABABABABABACABABABABABABABABACBBABCBABABABABABABABABABABABABABABABABABABABABABA" ++
    "BABABABABABABAHBBBCABDBABABABA1JABADAIAGABCBABBBQBI3BAIABABABABABABABABABABABAFACABBCiB" ++
    "gBABABABABABABABABABABABABABABABABAJABABABABABABABABABABABABABABABABABABABABABABABABABA" ++
    "BABBBABABABABABACABABABABABABABABABABABABABABABABABABABABABABABABABABABABABABABABABABAB" ++
    "ABABABABABABABABABABABABAC5B9qC5BBAFAiWlCj4CAGaBCC0KABABABABABABABABABABABABABABABABABA" ++
    "BABABABABABABABABABABABABABABABABABABABABABABABABABABABABABABABABABABABABABABABABABABAB" ++
    "ABABABABABABABABABABABABABAJABABABABABABABABABABABABABABABABABABABABABABABABABABABABABA" ++
    "BABABABABABABABABABABABABABABABABABABAJHIFKHIHIFLABABABAIHYHIHIHIELELDMELE9JADBGAdBPTAi" ++
    "ZZgpBfBgBABCCABABABDBACAICBABABABABABABABABABABABABABABABABABABABABABABABABABABABABABAB" ++
    "ABABABABABABABABABABABABABABABABABABAIABAEAda+ABABABABABABABABABABABABABABABABABABABABA" ++
    "BABATABABABABABABABABABABABABABA7EABABABABABABADABABABABABABABABABABABABABABABABABABABA" ++
    "BABABABABABABABABABABAKABABBBABABABAEABACABADABABABABABABABABABABEBEBABABABABABABABDBAB" ++
    "BBABABABABABABABAYAbpVZ56B7B8E3BsEKBOBGBBanBiBtEVqpC-0cV-0CY7i+1B"),
  (["changeswhentitlecased", "cwt"],
    "1DZqBA9BXBHBABABABABABABABABABABABABABABABABABABABABABABABABABABABACABABABABABABABBBABA" ++
    "BABABABABABABABABABABABABABABABABABABABABACABABCCABACADAFACADCCACABABACAEACADABACADABAE" ++
    "ABBBBBABABABABABABABABBBABABABABABABABABCBABADABABABABABABABABABABABABABABABABABABABADA" ++
    "BABABABABABABABAIACBBAEABABABABFBBBABBDBBDBECABBCAHACABBDFFAKB6FAbBABADADCSAx2BBBDCBABA" ++
    "BABABABABABABABABABEBACACAkBfBBABABABABABABABABABABABABABABABABAJABABABABABABABABABABAB" ++
    "ABABABABABABABABABABABABABABABACABABABABABABBBABABABABABABABABABABABABABABABABABABABABA" ++
    "BABABABABABABABABABABABABABABABABABABABABABABABABABABAhB6BgjDF24CIBAeHADAQAiDABABABABAB" ++
    "ABABABABABABABABABABABABABABABABABABABABABABABABABABABABABABABABABABABABABABABABABABABA" ++
    "BABABABABABABABABABABABABABABABABABABABABABABABABABGFABABABABABABABABABABABABABABABABAB" ++
    "ABABABABABABABABABABABABABABABABABABABABABABABABABABABABABABIIFKHIHIFKHIHINCHIHIHIEBBGA" ++
    "DCBBIDCBIHKCBBmKA1BPEAbwZ6qBfBBADBBABABAGACAKABABABABABABABABABABABABABABABABABABABABAB" ++
    "ABABABABABABABABABABABABABABABABABABABABABABABABABABABABAIABAEAM5BBAFAj8+ABABABABABABAB" ++
    "ABABABABABABABABABABABABABABABATABABABABABABABABABABABABABA7EABABABABABABADABABABABABAB" ++
    "ABABABABABABABABABABABABABABABABABABABABABABABABAKABACABABABABAEAEABBCABABABABABABABABA" ++
    "BALABABABABABABABAEABACABABABABABABABAwAswAyfC0qTGME91BZd6B7B8E3BrEKBOBGBB3oBiBtDVqpC-0" ++
    "cV-rBYei+1B"),
  (["changeswhenuppercased", "cwu"],
    "1DZqBA9BXBHBABABABABABABABABABABABABABABABABABABABABABABABABABABABACABABABABABABABBBABA" ++
    "BABABABABABABABABABABABABABABABABABABABABACABABCCABACADAFACADCCACABABACAEACADABACADABAF" ++
    "BBBBBBABABABABABABABBBABABABABABABABABBBBBADABABABABABABABABABABABABABABABABABABABADABA" ++
    "BABABABABABABAIACBBAEABABABABFBBBABBDBBDBECABBCAHACABBDFFAKB6FAbBABADADCSAx2BBBDCBABABA" ++
    "BABABABABABABABABEBACACAkBfBBABABABABABABABABABABABABABABABABAJABABABABABABABABABABABAB" ++
    "ABABABABABABABABABABABABABABACABABABABABABBBABABABABABABABABABABABABABABABABABABABABABA" ++
    "BABABABABABABABABABABABABABABABABABABABABABABABABABAhB6B8qCaBCCoXF24CIBAeHADAQAiDABABAB" ++
    "ABABABABABABABABABABABABABABABABABABABABABABABABABABABABABABABABABABABABABABABABABABABA" ++
    "BABABABABABABABABABABABABABABABABABABABABABABABABABABABGFABABABABABABABABABABABABABABAB" ++
    "ABABABABABABABABABABABABABABABABABABABABABABABABABABABABABABABABIIFKHIHIFKHIHINCkBBBEAB" ++
    "ADCBBEADDCBIHKCBBEAhKA1BPEAbwZ6qBfBBADBBABABAGACAKABABABABABABABABABABABABABABABABABABA" ++
    "BABABABABABABABABABABABABABABABABABABABABABABABABABABABABABABAIABAEAM5BBAFAj8+ABABABABA" ++
    "BABABABABABABABABABABABABABABABABABATABABABABABABABABABABABABABA7EABABABABABABADABABABA" ++
    "BABABABABABABABABABABABABABABABABABABABABABABABABABABAKABACABABABABAEAEABBCABABABABABAB" ++
    "ABABABALABABABABABABABAEABACABABABABABABABAwAswAyfC0qTGME91BZd6B7B8E3BrEKBOBGBB3oBiBtDV" ++
    "qpC-0cV-rBYei+1B"),
  (["dash"], "dBAsaBAjBA1iDA50BA90CFtBA7BAPA6MA40DACA-BEAyAuNATAfDAgcjBB5BAKA9FA0jDAuJA"),
  (["defaultignorablecodepoint", "di"],
    "dFA1VAcWA2qCBjiBBlCErvBEwEhBPk7EAr4jBPfHA0FAfCI75fBDf6FH5kbYvvD"),
  (["deprecated", "dep"], "9KA99BA38CABA91CB56CFpVBm6nxA"),
  (["diacritic", "dia"],
    "uCABA7CAGAEACBnPuEBHFFRBEAJBtHEhGAnBcBBABBBBBA3EHEB6EBEBDC3CwrCKqBK2BBuDH9BJQxtBAQADDyA" ++
    "aCAQAeDAQAeDAQAfBCsBAQAHAnDAeDAQAeDAQAdDBQAsDAfDAMFBAbDANEbCBxABABAEB2CCBBuBAgDABB8BBEE" ++
    "ZGBAKB1WCkzB+AkEKJArKC4JAUHCAgBOCKDOCL8CAPA6BImBBqBALB2CB0CFiCYEAGACCiBuBgB3BFL5BKtNABC" ++
    "LCNCNCNBg7DCtJAqPF9DDvCAibzAMBBAyBiCBO1B6DC6DAGBMA5BAnEAxRpBD4BAvCAMA4BAlEC1CDjBA4DEJC0" ++
    "EBgpTA1YPeIABAfBAdBB3CAsXAv4BFB9BBItTCEA5FBrRF6BAwEcMACC6CKhBD0GA9BA8CBoDBuBAcCAJC8DBiF" ++
    "BgCBQAYGDEpCCBBNBvCADArDBrHBuDAmDBjDAdIB2IBEAsEAjCASAhCA5NA2IABBhCA1CA7LBXAc7FOp6LA0eCE" ++
    "rBGkRB2RQgCBuvPDBGBB1oHdBCW0RCDFIHCG+D2kDtB2GGnLAtBDuXB0XGdDCBC"),
  (["emoji"],
    "3BAGAFJfDAEAdsHAMAoGAWAqCFPBfLBMA6FAZKEC7GA7HBKAJAqBDBEJACACBCAEACABBCADADBICFABAFLLBCA" ++
    "BBBASACBSFBABBDBFACBEBLBFBCAFBBABBUBFFBDCAEACACFBACABABAGADAGAKBPACAEABAECBALBgBCJAOAOA" ++
    "kLBfOCTBjBAEAq6BAMApSABAabfDAaGA0FBMBOACJbCZBBXAUACIVBeF1BCfDCBBCCiCCCB6IBuBLFBXHBCHMAC" ++
    "DCAEBNBCAIBJAFCMCICCABAEAGADAGlCgB5CFHCDDJDABBDACJ3HLEArIeBBJBoFgDMDKDoBBAEPCLEJ"),
  (["emojicomponent", "ecomp"], "3BAGAFJjuHAlGAb9nBAmusBZrPEgdBDcj1YvC"),
  (["emojimodifier", "emod"], "rvsDE"),
  (["emojimodifierbase", "ebase"],
    "tgJArGAQDn3jDAsBCCACClDBCKVSDAECBCHABAYA9GBEAVAEBeFCDEjCAQCJALAvRACAIHGAJJCCoBAtBBBBBAR" ++
    "CBM5HCaBI"),
  (["emojipresentation", "epres"],
    "qoIBdGDDACA9QBVBiBLbBATANAIBRBFBIAFAVAHBBAEACAHAEByA3BABAECBAtBCYAOArwBjBAEAe5hDAaGAuFA" ++
    "CJbCZBAYAUACEBCVBeF0BMIB5CBVMaBEEMQDAD6CBABqFCuBNDBXSAwBNAmCkCgB5CGADCCDDDLBHI3HLEArIeB" ++
    "BJBoFgDMDKDoBBAEPCLEJ"),
  (["extendedpictographic", "extpict"],
    "9FAEAdsHAMAoGAWAqCFPBfLBMA6FAZKEC7GA7HBKAJAqBDBEJACACBCAEACABBCADADBICFABAFLLBCABBBASAC" ++
    "BSFBABBDBFACBEBLBFBCAFBBABBUBFFBDCAEACACFBACABABAGADAGAKBPACAEABAECBALBgBCJAOAOAkLBfOCT" ++
    "BjBAEAq6BAMApSABAabfDA7BD4DLPBPAOB5BJgDBMBOACJTnBxOKAUACIBDJWGrFCfDCBBCCiCCCBDFtHBuBLFB" ++
    "XHBCHMACDCAEBNBCAIBJAFCMCICCABAEAGADAGlCgB5CFHCQDABFCMqG5BMDoBHKF8BH+BMDCNJ6BMeBBJBoFoC" ++
    "HOhE0It-"),
  (["extender", "ext"],
    "nFAoQBexApNAmTA9EApCAgXAvDA3aCAoBA3TAeMA4CA9sEAbBE7DBtCCmoxAmfBA2+AWA9EAcDAVBr3VAg0CBbe" ++
    "BAxAEA76BA5JAkDBiPCf6BA0wA8bTBs4BBBAOB8ayBh5BAkwC"),
  (["graphemebase", "grbase"],
    "0BuC1BMBhSgDHCFEGBABTBvGH5FB5BChBCCeBABACACAJwEFRJLABdBVPB4DIAGBCAE-CABzzoCLAOaBJGDXEAJ" ++
    "ADAHOBYFABKF-Q9BpBmBBABDIDBCHJCyBBBHCBCVBGBADDDABBGBCBBANBBCEXFABFEBCVBGBBBBBBECYDBAHJC" ++
    "CBAMABIBCBVBGBBBEDDIABBDAPBELHAIBBHCBCVBGBBBEDACAGBCBPBBCERLABFDCBDDBBABBDBDCDLFABBDCBC" ++
    "DAVUGCBHBCBWBPDADDTCBBCBEJHJBKBCBWBJBEDBCABBXCBBEJBCOKBCB8BCABBFCBCBBECBJEZCBBRDXBIBACG" ++
    "JBGGHJCCMfBBBLHIM5BBBABEBXBABJBBJACEBAJJCD0BXCwBABABNB3BSAFACEhBHBFBM5BcBEAGACBCYCDDPEM" ++
    "BBCFBOB7BBAFACoLBDCGBABDC8BBDC0BBDCGBABDCOBoBBDC2CFyDZGlCCFCsUDoCHRNSDBJROMBCPjBCAHHBBL" ++
    "IDJGJGKFJGoCHEC1BBAF5CK+EDCCEBBFHAD9BCELbBEZGKDoBCBDnBBAJABBIFNJGJGNmCfBKDDHByJLC-EBGnB" ++
    "BACCBANfBIBFODtBFaBCKLANAHDBFBCCAFvF0ClICFC5BCFCHBABABAB+CkBBOBNCFBSCCBIBKFXHgBQBCwBMD1" ++
    "BuBbEEpUWKVjoBCoLDBFcBBAFACnBHBPWJGBGBGBGBGBGBGBG1BtC2BZBoCMlGwpBGPBlCE4DFaBBtCBlCJfBBc" ++
    "jyDmBJrKUeBEAK-CfCCFIsGUQBCBDBYCEEJGnBI3CKLYMB5BIYLAMzGfBBBEBCBBMBKEGBYB8BGBCBLCBHBACJC" ++
    "-BiBBADBCECABAYQCHLFCFCFJGBGBrBEkDBBBDDJG3tKMWEgB48IdLC9D6BGMEFABXBEBABBBBB9U0BPQJW2BBS" ++
    "BDEEB6EEsEC+DFCFCFCCDGBGNBCLBZBSBBBOCN2BqDFCEcBDnCBMDAfBcB3EyDgBQwE3BJzF5BKzB4BENaBtECJ" ++
    "G3BE3BE7BIjBLLBOBGBBBKBOBGBBDjBMmJJVKHYFB9BBI5CFCABbBBBDACWB7CIIgBSBBF0BDwFw6BnBETCeBPD" ++
    "BCByKIHIHvB0B4BGLJlBDyCwFZHDMGgC8CnBiBNiBH9BMJG5BIXIBgG+B9BDACBQFII7B7BIVLIWRED6BxUWJAB" ++
    "lBPGEzBBCAMgBEBCBBDOYHJJ3BFAJRI2BBCLjBJABHEBBPBTLRBxDBEFBBvBGBABDBOBKGeBBCNJIBBHCBCVBGB" ++
    "BBEDABABDCBCBDAMGyJBACAB5BBABBPABBDABCBB7BnBIBDABUBABC+fBBBGABBBACACDIJ6FeBBBGDCACw4BiB" ++
    "IBBACDLJGMTaBBABBIBGJGTywDABBEAJWpFeBJACA4DiCMHCACHBBBXBEBBGDBCJJ6CHC9BIDBDxAK7BGBEHJAG" ++
    "BDdBNACIN8CHJnCADABAoC1BOJGIB5BOABFKyD-ZAHACAbCGBBB5BVAJJGFBBB4BEBBABAHJGbBEJmHSCDJOB3B" ++
    "IBDWmCAPhBNqy6DeDBEL3GciC2DNf1BRFZqsDF6SplGzMCDJ6mBoRH+BJEgCBJGzHAKfBHOKJBGBUFSgNpB6GqC" ++
    "FYCYcBaCFnBLM0CDOEJl6H9B-1DiDtfIDBGBBB2JPAzCCAODIbM48CaDFMDIHJCACA0rDsHDjNGWPQvCjDsBlHK" ++
    "6BCrBFCWBHzEsBV1CDAqDTMTMmCJY7EkCB6CBBCACBCDBLBABGB0CBDCHBGBxBDBEBADGBjKC3JChRnBDiBHBNB" ++
    "Gk3B+GF5ItBiEcBKGCJEB0KzSbBEJFAgOxEJmGzCKEA0G+BCBBBGCEJB0HGBDBBBOB4GCIgB3CHAEJEBhY3CcCs" ++
    "B2GDBwBBBACABJBDBABAGAEABABABCBBBACABABABABABBBACDBGBDBDBABJBQFCBEBQkBBeIbBE3DMOCOBOB4B" ++
    "KdFoByNbBEIHBOFqEo+DQDMDpGGLEAPLEnBIJG7BIzCLEBOI7BnKINCMDKDoBBAEPCLEJHiEB6D50Bvm9B0Bt8E" ++
    "CdkFCg9HPdT2dCtQ2fBaqEF99I"),
  (["graphemeextend", "grext"],
    "0YfDjIG7IcBBABBBBBA8CKgBUQA5DGCFCBBD3BA+wrCKqBIJAYDBIBCBEbBCrBIaBXB-nBABAEHEADGKBzAqBAB" ++
    "ACDIAJAKBwACBpBAEBEBCCDA+BDALBpBAEEBBEAUBWFBAqBABBBDIAHCKB+ArBABAMAJA8BADAnBABCFCBDHBLB" ++
    "zAqBACBBADCBDHBLByBpBBBACDIAJAKBzA8CAEACCBAIAhCACGMH2DACILG9CBxABABAnBNBEBBFKB3BJA6DDBF" ++
    "BBCBZBECQDNACBGAPAvVCizDyCzB+B0CBBGIACKJAdBCBAlDB2BAmDCEBJAGCrGBCAqBABGBABACHGJCAgBdBCL" ++
    "UDgBJEC6BIMB0BDCFoBABBDABEoBHCBoECBMBGEAGADB6GvBcQA3G0BuvCCdEA0D-aRF9DBkezDBJ0BBgCBgIAD" ++
    "AEAZBFAnEBwRNA6BHZKBAcBCgBACDCBCA4BA3CFCBCBMAIAfBAjBABCCBFBBAaBBIAeHACAEAgpTA1XPQPeLBtS" ++
    "A2HAlEE6kBCBBFD8BCEA5FBtRD1CEtJBdCF6CKhBDrDAmBO9BACBKChBDCBHAtBC4BEBHuBAMBkBIBAIDCAvCCC" ++
    "DGACAtEADHVBpBBBABAMAJAOGDE3CACFBACABCECBAOBlCHCCBAXAhCACFBACABBBBbHACDGBBBxBlCHCABBaDA" ++
    "BACH5DABACDBE3IIBBlHAKDEAgEDCBEA0BJ8BFCDIAJFCCeBMBB6GABCBA9GGBFBAiCVCGBBBBqDFDABBBGBA8C" ++
    "BDABArKBLBkBEFCXA57FAGO86LLDC0eCErBGo0BAvBDhCALBb5TB1jEdBCWuQEDFIHCG+DkECrtBmBEhBIAOAWE" ++
    "BOgaBGBQCGBBBE4DA0FGnLAtBDsPDuHBjHACAHBFAqOGdDGlm5YvC0EfH"),
  (["hexdigit", "hex"], "gBJHFwF9lvBJHFwF"),
  (["hyphen"], "dBAvDAs6BArjEA90CB5gDA3XA7bjBA9FAnCA"),
  (["idsbinaryoperator", "idsb"], "gvLBCJhPA"),
  (["idstrinaryoperator", "idst"], "ivLB"),
  (["idcontinue", "idc"],
    "gBJHZEABZfBAKABACAFWB+B9OELOEHABARkDBBCDBAGEBABTBiCBaEBEC5FB5BCAG8BIcBBABBBBBAIwEDzKF9C" ++
    "E5DBHCJBSCAQqBC4DOlBEACACdBSxEKFXBGHaCB0ECJBSBHCBCVBGBADDCICBCDIAEBBECLKABACCBFEBCVBGBB" ++
    "BBBBCABEEBCCDAHDBAHPLCBIBCBVBGBBBECJBCBCCAPDCJJGBCBHCBCVBGBBBECICBCCHCEBBECJBAQBBFDCBDD" ++
    "BBABBDBDCDLEEDCBDCAGAOJQMBCBWBPCIBCBDHBBCBBCDCJQDBHBCBWBJBECIBCBDHBFCBDCJBCMMBCBiBBCBEF" ++
    "DHECJKFBCBRDXBIBACGDAEFBABHGJCBNpBFOBJ7BBBABEBXBABWCEBABGBJCD0BAXBGJLABABAEJB3BETBRB3BJ" ++
    "ApB9CGdCC5BBAFACaBBcKBDCGBABDC8BBDC0BBDCGBABDCOBoBBDC2CCCJIOPQlCCFDbTCQBZFaCDKHVJVLTMMB" ++
    "CBBMjCDAEBCJ1BCBKGoCHaBF5CK+BLELK7BCELbBEZGK5BxEuBByCKGJNAINB+CLUcCDJRIMjDMnBIJDgBCKFaB" ++
    "CCQCB6BFlQCFC5BCFCHBABABAB+CkBBGBADCBGDDCFEMFCBGPBhBBTAyANAQMjBMEADLRAEACJBACFGABABABPC" ++
    "DFEEAR8BnjC4HGIM5BBAFACnBHAPXJGBGBGBGBGBGBGBGB-5QCZOBECEElCCGBuCFaBBtCR-gBP0QvdG0CckV3C" ++
    "dBCcIDxUfBEJBiD5BIC6DChCUmBEATjBM5CKJGXDABgBC3BMyD0COKG+BmBJNCJGWD8CYCCPCEKFCFCFJGBGBaB" ++
    "BNGqDBBCJG3tKMWEgB48IdLC9D6BGMEFLBMBEBABBBBBbD1BaLSvBClB8BLEPQPDBYC0BEB6ETJHZEABZKpCDFC" ++
    "FCFCC3BLBZBSBBBOCN2BqD5CkB8EA2EyDgBPA--NzFaBFzC3BEHBEaBtECJG3BE3BE7BIjBMKBOBGBBBKBOBGBB" ++
    "DjBMmJJVKHYFB9BBI5CFCABbBBBDACWKWJ+1CSBBKVKZGZ6BnBGB0CDBBFHBCByCCEA0ByDy3BHBzZlBKVKSNRe" ++
    "D8CnBiBNiBN7BIJG5BDEBWqH9BBBDBQFiB2BKAI0B-VaBUxWJ6C-PJrBHANYHJGkBBJEDI3BCAJ4CEDBMBA3BRB" ++
    "4BGDuBGBABDBOBJHqBFJGDBHCBCVBGBBBEBJCBCCCAGAFGCGDELJBACAB5BBJBACABDBHNBzaCFJED+5CBAIJ6F" ++
    "lBCIXF2B0CDALJ6BoBHJGTywCOEJGGpFqB5D9CVHCACHBBBzBBCIMJ6CHCdBCHBBxuBIAI9CDAS8C7DHoC0BPJG" ++
    "IBcBBIPJYzCVBN9CGBBBbBDABBBIIJGFBBB4BBBBFHJGbBEJmHWJQB8BDENKlCAfCpy6DeDR3GciC0DPf1BQVKq" ++
    "sDF6SplGpB6mBoRH+BJGeCBJGzCELmBJDMJJUFSgNcBDJ6GvB0BYCYcBaCEoBHQ0CBBBLGJl6H9B-1DiDtfIDBG" ++
    "BBB2JPAzCCAODIbM48CaDFMDIHJDBh2EJ6QdBCWuQEDFIHCG+DkECrNkCB6CBBCACBCDBLBABGB0CBDCHBGBxBD" ++
    "BEBADGBjKCYBYB+BYB+BYB+BYB+BYBHChB0QmBEhBIAOAWEBOg2B+GFlGGBQCGBBBEFtB1BAgDcBDNCJEA1K+Rp" ++
    "BmO9BmGaB5G+BVIB0HGBDBBBOB4GLG9BbCEJ65BDBwBBBACABJBDBABAGAEABABABCBBBACABABABABABBBACDB" ++
    "GBDBDBABJBQFCBEBQk9DJ60Bvm9B0Bt8ECdkFCg9HPdT2dCtQ2fBaqEF99I64jVfH"),
  (["idstart", "ids"],
    "1CZGZfBAKAEAFWB+B9OELOEHABA1EEBBCDBAGABCBABTBiCBaEI5FB5BCAG8B7CwEDdBaB3BBB2DBAPBHBKCCAQ" ++
    "ABzzoCLAY0BJBEAFVEAJADAXYHKFXBGQ9BqBlBDASAHJPPEHCBCVBGBADDDAQANBBCOBKAIFEBCVBGBBBBBB-DB" ++
    "ATCQIBCBVBGBBBEDASAPBXALHCBCVBGBBBEDA+BBCPARABFDCBDDBBABBDBDCDLWAkBHBCBWBPDAwCBBCB+AEHB" ++
    "CBWBJBEDA+CBBPBRIBCB8BCAQAFCICYFFRDXBIBACGqBfBBBMGqBBBABEBXBABJBBJACEBAVD0BAvBHB3BxEjDa" ++
    "BUAQFEDDADBHCEMMAR5BBAFACaBBcKBDCGBABDC8BBDC0BBDCGBABDCOBoBBDC2C5BPQlCCFDbTCQBZFaCDKHRN" ++
    "SOROMBCPjB3BAEA3CoCH8BBAF5CK+hBzCELbBEZmBWJkBiCAtCeBRHmBzNBKbBw3B9BCK3BCKFaBCC9BDBFBBDA" ++
    "FvF0ClICFC5BCFCHBABABAB+CkBBGBADCBGDDCFEMFCBGkDANAQM5DAEACJBACFGABABABPCDFEEAR8BnjC4HGD" ++
    "DBM5BBAFACnBHAQWJGBGBGBGBGBGBGBG6RCZIHECEElCEEBpCBDFaBBtCR-gBP0QvdG0CckV3CdBCcIDPKBUeBQ" ++
    "+CfC7BIC6DChCUQBCBDBWzjBOhBuBFDABBLxKWZyHeByAQEBJKEB8BXCBHUWDADhBBADBCECABAYCCKHCMFCFCF" ++
    "JGBGBaBBNGiDz3tKMWEgB48IdLC9D6BGMEFABJBMBEBABBBBBbD1BaLSvBClB8BLkDEB6E4BZGZLoCDFCFCFCC3" ++
    "BLBZBSBBBOCN2BqD5CkBbIyDgBfB-NzF5BKzC3BEHBEaBtES3BE3BE7BIjBMKBOBGBBBKBOBGBBDjBMmJJVKHYF" ++
    "B9BBI5CFCABbBBBDACWKWJ+1CSBBKVKZGZ6BnBGB0CAPDBCByaByDy3BHBxxlBKVKSNReD8CnBiBNiBN3B6BxJW" ++
    "qH9BGBQFoByKAIVaBReBUxWMkBpBBCANcB0BYw3BzACAI2BDAMfBODVABA3BRBYTBvBGBABDBOBJHeB6BHCBCVB" ++
    "GBBBEDASAME+JBACAB5BBAZABAcBkBSDUC+fBUBBAoFeB9BD4BfBUArBaBNA7Cw5BGpFbBkDvB-HCACHBBBXPAB" ++
    "AuCHC6BQABAyAK7BHAVALdBTAS8C7G0B-IB4BRAhBzgDGBBB5BVAZFBBB-OAXbB4ISPABMB1BsDAfCpy6DeDR3G" ++
    "ciC0DPf1BRFZqsDF6SplGz2nBoRH+ReCRzSfBQD-UFSgNcBjGvB0BYCYcBaCFA2CM0CBBAOEJl6H9B-1DiDtfID" ++
    "BGBBB2JPAzCCAODIbM48CaDFMDIHJ6rFkCB6CBBCACBCDBLBABGB0CBDCHBGBxBDBEBADGBjKCYBYB+BYB+BYB+" ++
    "BYB+BYBHkpB+GF5ItBiEcBKGQA1KzSbB4Px4HzCAfG+BCBBBGCEJB0HGBDBBBOB4GrB3CHAk5BDBwBBBACABJBD" ++
    "BABAGAEABABABCBBBACABABABABABBBACDBGBDBDBABJBQFCBEBQ4aEvm9B0Bt8ECdkFCg9HPdT2dCtQ2fBaqEF" ++
    "99I"),
  (["ideographic", "ideo"],
    "60MBZIOC5+vdG0CvfU08WdLC9Da8zANEJl6H9B-1DiDtrIbM48Tvm9B0Bt8ECdkFCg9HPdT2dCtQ2fBaqEF99I"),
  (["joincontrol", "joinc"], "c0IB"),
  (["logicalorderexception", "loe"], "0iDErDEgnCCCAq74BBCABB"),
  (["lowercase", "lower"],
    "1DZfBAKAEA4BXBHBABABABABABABABABABABABABABABABABABABABABABABABABABABABBBABABABABABABABB" ++
    "BABABABABABABABABABABABABABABABABABABABABABABACABABCCABACADBEACADCCACABABACABBBACADABAC" ++
    "BCCGACACABABABABABABABABBBABABABABABABABABBCABADABABABABABABABABABABABABABABABABABABABA" ++
    "BABABABABABABABABABGCACBBAEABABABAB4CC2BHB+E0DAbBABADACDSAx2BBBDCBABABABABABABABABABABA" ++
    "BEBACACBjBfBBABABABABABABABABABABABABABABABABAJABABABABABABABABABABABABABABABABABABABAB" ++
    "ABABABABABABACABABABABABABBBABABABABABABABABABABABABABABABABABABABABABABABABABABABABABA" ++
    "BABABABABABABABABABABABABABABABABABAgB8B7qCaBBDoXF24CIBAlDvF1CABABABABABABABABABABABABA" ++
    "BABABABABABABABABABABABABABABABABABABABABABABABABABABABABABABABABABABABABABABABABABABAB" ++
    "ABABABABABABABABABABABABABABABABABABIBABABABABABABABABABABABABABABABABABABABABABABABABA" ++
    "BABABABABABABABABABABABABABABABABABABABABABABABIIFKHIHIFKHIHINCHIHIHIEBBGADCBBIDCBIHKCB" ++
    "BpDANAQMdDADBDAxAEAEACBIDEA1BPEAbwZ6qBfBBADBBABABAEABBBHDABABABABABABABABABABABABABABAB" ++
    "ABABABABABABABABABABABABABABABABABABABABABABABABABABABABABABABABABABBHABAEAM5BBAFAj8+AB" ++
    "ABABABABABABABABABABABABABABABABABABABABABATABABABABABABABABABABABABABC5EABABABABABABCB" ++
    "ABABABABABABABABABABABABABABABABABABABABABABABABABABABABABABJBABACABABABABAEABACABCBABA" ++
    "BABABABABABABABAFAFABABABABABABABAEABACABABABABABABABAVDBABClZaBBNGfC0qTGME91BZd6B7B8E3" ++
    "BrEKBOBGBB3OACCB9BBI58BiBtDVqpC-0cV-rBY6aZZwGBRwZwDBABGBKwZwZwZwZwZwZwZwZwxyYBFwYBFwYBF" ++
    "wYBFwYBFBAkpBJBTGF5ItBk5C1B"),
  (["math"],
    "bBAQC-AzABAdBAEA5BA-AoWCCAwBCCfQCdgGAxCLADANAODVELE1CMEADBEESAEACJBACFGADBCBBCBFDNBA4CX" ++
    "BFBBEBE-BAGBObIIDUBqCA+wBAYALGtNBMJEFEBCBDEOABACFLHFBpBABAzDJCgKvB0IvPgBUCFsujBAnZFBA2F" ++
    "AQCzABAzABA3EAGD1dDB0bgBAf8BkCB6CBBCACBCDBLBABGB0CBDCHBGBxBDBEBADGBjKC3JChB0gFDBwBBBACA" ++
    "BJBDBABAGAEABABABCBBBACABABABABABBBACDBGBDBDBABJBQFCBEBQkBBueCI"),
  (["noncharactercodepoint", "nchar"],
    "gevB-eQBuvvBBuvvBBuvvBBuvvBBuvvBBuvvBBuvvBBuvvBBuvvBBuvvBBuvvBBuvvBBuvvBBuvvBBuvvBBuvvB" ++
    "B"),
  (["patternsyntax", "patsyn"],
    "1BOKGwDBAwD2BGBABBBABBEAEADAXA-AooHXIOCSBJhJfW0FlT+b3B0QvD1MCEYPAd8jBB5IB"),
  (["patternwhitespace", "patws"], "JESA4DA8sHBYB"),
  (["prependedconcatenationmark", "pcm"], "0gBFnGAhBA0MBgCAqu1CAPA"),
  (["quotationmark", "qmark"], "2BAEA3EAPAsqHHZB7gDA9ODNC1hjBDtFAEAqCB"),
  (["radical"], "0kLZBoCMlG"),
  (["regionalindicator", "ri"], "6fsDZ"),
  (["sentenceterminal", "sterm"],
    "1BAMAQA9aBAjECkFAbBCmHAtBABADB5JB4nBBmYAEB5YA6GBtEBdBAFAqJB2LD2FBKBCBzCrFB1CB4zAXBJCf5D" ++
    "CiJANAWBdNAs7zAeIB3HADAuLBmCBvCAoEBjECgEBpHA6hUACBrBADB9FAMAQA1CAknCBt7BEcBDtFBlDDvDC1E" ++
    "BGAQBoCBBBcDAaJBlDBlLBFO9DBpHC5QABArHBnCB4NBkVBaCB9pSB5EA1CBLA9RB8JA6gTA8fHA"),
  (["softdotted", "sd"],
    "9DB4GApIA+AkBAUA0KA2DABA98GAjBANADA4EAtEA5NAmGBipCA5t9DBiBBiBBiBBiBBiBBiBBiBBiBBiBBiBBi" ++
    "BBiBB64CAhJBwA"),
  (["terminalpunctuation", "term"],
    "1BAKABALBDAuZAIA1QApBA8CAOABCkFAbBKBAbHBmBFBH-A5IBk7BBcFAEFnJBlYH5YAsDC7CBtECDA7BDCBqJB" ++
    "2LD2FBKBBCzCrFEuBB4zAXBJCf5DCiJANAEAKABBDBcNBr7zBdIC3HEuLBmCBvCAnECjECvDAQBpHA6hUACBpBC" ++
    "BD9FAKABALBDA1CACAq1BAgBA64BA7GAmJBoEF4CFpCDozEcBDtFGgDDvDC1EBGAQBoCEcDAaJBlDCMB6LDDO9D" ++
    "BpHC5QABArHBnCBEBuMCdBA5UBaCBb9BEpfRB5EA1CCKA9RB7JB6gTA7fHD"),
  (["unifiedideograph", "uideo"],
    "00NvdG0CvfUegWBBABBKABABBCCme1Cvm9B0Bt8ECdkFCg9HPdT2dEaqEF99I"),
  (["uppercase", "upper"],
    "1CZ5DWBG1BABABABABABABABABABABABABABABABABABABABABABABABABABABABACABABABABABABABACABABA" ++
    "BABABABABABABABABABABABABABABABABABABABABBBABADBBABBBCCDBBBCDBBBBABABBBACABBBCBABBDAHAC" ++
    "ACACABABABABABABABACABABABABABABABABACACABCBABABABABABABABABABABABABABABABABABABABABABA" ++
    "BABABABABABABAHBBBCABDBABABABA1JABADAIAGABCBABBBQBI3BACCDABABABABABABABABABABABAFACABBC" ++
    "iBgBABABABABABABABABABABABABABABABABAJABABABABABABABABABABABABABABABABABABABABABABABABA" ++
    "BABABBBABABABABABACABABABABABABABABABABABABABABABABABABABABABABABABABABABABABABABABABAB" ++
    "ABABABABABABABABABABABABABAC5B9qC5BBAFAiWlCj4CAGaBCC0KABABABABABABABABABABABABABABABABA" ++
    "BABABABABABABABABABABABABABABABABABABABABABABABABABABABABABABABABABABABABABABABABABABAB" ++
    "ABABABABABABABABABABABABABABAJABABABABABABABABABABABABABABABABABABABABABABABABABABABABA" ++
    "BABABABABABABABABABABABABABABABABABABABAJHIFKHIHIFLABABABAIH8CDMDMDMELD6IAEADCCCCADEGAB" ++
    "ABABDCDKBFAwPTAiZZgpBfBgBABCCABABABDBACAICBABABABABABABABABABABABABABABABABABABABABABAB" ++
    "ABABABABABABABABABABABABABABABABABABABABABABABABABABAIABAEAda+ABABABABABABABABABABABABA" ++
    "BABABABABABABABABABATABABABABABABABABABABABABABA7EABABABABABABADABABABABABABABABABABABA" ++
    "BABABABABABABABABABABABABABABABABABABAKABABBBABABABAEABACABADABABABABABABABABABABEBEBAB" ++
    "ABABABABABABDBABBBABABABABABABABAYAbpVZ56B7B8E3BsEKBOBGBBanBiBtEVqpC-0cV-0CY7aZZwZwZwAB" ++
    "BCACBCDBHwZwBBDCHBGxBBDBEBADGxZwZwZwZwZwZ+Y1BY1BY1BY1BY1BAl9E1Be0CZGZGZ"),
  (["variationselector", "vs"], "b0GCBAgfpBPgn0wfH"),
  (["whitespace", "wspace", "space"], "JESA4DAwAveFAvbCKzBFAfBA0tDA"),
  (["xidcontinue", "xidc"],
    "gBJHZEABZfBAKABACAFWB+B9OELOEHABARkDBBDCBAGEBABTBiCBaEBEC5FB5BCAG8BIcBBABBBBBAIwEDzKF9C" ++
    "E5DBHCJBSCAQqBC4DOlBEACACdBSxEKFXBGHaCB0ECJBSBHCBCVBGBADDCICBCDIAEBBECLKABACCBFEBCVBGBB" ++
    "BBBBCABEEBCCDAHDBAHPLCBIBCBVBGBBBECJBCBCCAPDCJJGBCBHCBCVBGBBBECICBCCHCEBBECJBAQBBFDCBDD" ++
    "BBABBDBDCDLEEDCBDCAGAOJQMBCBWBPCIBCBDHBBCBBCDCJQDBHBCBWBJBECIBCBDHBFCBDCJBCMMBCBiBBCBEF" ++
    "DHECJKFBCBRDXBIBACGDAEFBABHGJCBNpBFOBJ7BBBABEBXBABWCEBABGBJCD0BAXBGJLABABAEJB3BETBRB3BJ" ++
    "ApB9CGdCC5BBAFACaBBcKBDCGBABDC8BBDC0BBDCGBABDCOBoBBDC2CCCJIOPQlCCFDbTCQBZFaCDKHVJVLTMMB" ++
    "CBBMjCDAEBCJ1BCBKGoCHaBF5CK+BLELK7BCELbBEZGK5BxEuBByCKGJNAINB+CLUcCDJRIMjDMnBIJDgBCKFaB" ++
    "CCQCB6BFlQCFC5BCFCHBABABAB+CkBBGBADCBGDDCFEMFCBGPBhBBTAyANAQMjBMEADLRAEACJBACFGABABABPC" ++
    "DFEEAR8BnjC4HGIM5BBAFACnBHAPXJGBGBGBGBGBGBGBGB-5QCZOBECEElCCBCCBuCFaBBtCR-gBP0QvdG0CckV" ++
    "3CdBCcIDxUfBEJBiD5BIC6DChCUmBEATjBM5CKJGXDABgBC3BMyD0COKG+BmBJNCJGWD8CYCCPCEKFCFCFJGBGB" ++
    "aBBNGqDBBCJG3tKMWEgB48IdLC9D6BGMEFLBMBEBABBBBBbD1BaEGpGSvBClB8BJGPQPDBYC1BABADABABABABt" ++
    "DTJHZEABZKpCDFCFCFCC3BLBZBSBBBOCN2BqD5CkB8EA2EyDgBPA--NzFaBFzC3BEHBEaBtECJG3BE3BE7BIjBM" ++
    "KBOBGBBBKBOBGBBDjBMmJJVKHYFB9BBI5CFCABbBBBDACWKWJ+1CSBBKVKZGZ6BnBGB0CDBBFHBCByCCEA0ByDy" ++
    "3BHBzZlBKVKSNReD8CnBiBNiBN7BIJG5BDEBWqH9BBBDBQFiB2BKAI0B-VaBUxWJ6C-PJrBHANYHJGkBBJEDI3B" ++
    "CAJ4CEDBMBA3BRB4BGDuBGBABDBOBJHqBFJGDBHCBCVBGBBBEBJCBCCCAGAFGCGDELJBACAB5BBJBACABDBHNBz" ++
    "aCFJED+5CBAIJ6FlBCIXF2B0CDALJ6BoBHJGTywCOEJGGpFqB5D9CVHCACHBBBzBBCIMJ6CHCdBCHBBxuBIAI9C" ++
    "DAS8C7DHoC0BPJGIBcBBIPJYzCVBN9CGBBBbBDABBBIIJGFBBB4BBBBFHJGbBEJmHWJQB8BDENKlCAfCpy6DeDR" ++
    "3GciC0DPf1BQVKqsDF6SplGpB6mBoRH+BJGeCBJGzCELmBJDMJJUFSgNcBDJ6GvB0BYCYcBaCEoBHQ0CBBBLGJl" ++
    "6H9B-1DiDtfIDBGBBB2JPAzCCAODIbM48CaDFMDIHJDBh2EJ6QdBCWuQEDFIHCG+DkECrNkCB6CBBCACBCDBLBA" ++
    "BGB0CBDCHBGBxBDBEBADGBjKCYBYB+BYB+BYB+BYB+BYBHChB0QmBEhBIAOAWEBOg2B+GFlGGBQCGBBBEFtB1BA" ++
    "gDcBDNCJEA1K+RpBmO9BmGaB5G+BVIB0HGBDBBBOB4GLG9BbCEJ65BDBwBBBACABJBDBABAGAEABABABCBBBACA" ++
    "BABABABABBBACDBGBDBDBABJBQFCBEBQk9DJ60Bvm9B0Bt8ECdkFCg9HPdT2dCtQ2fBaqEF99I64jVfH"),
  (["xidstart", "xids"],
    "1CZGZfBAKAEAFWB+B9OELOEHABA1EEBBDCBAGABCBABTBiCBaEI5FB5BCAG8B7CwEDdBaB3BBB2DBAPBHBKCCAQ" ++
    "ABzzoCLAY0BJBEAFVEAJADAXYHKFXBGQ9BqBlBDASAHJPPEHCBCVBGBADDDAQANBBCOBKAIFEBCVBGBBBBBB-DB" ++
    "ATCQIBCBVBGBBBEDASAPBXALHCBCVBGBBBEDA+BBCPARABFDCBDDBBABBDBDCDLWAkBHBCBWBPDAwCBBCB+AEHB" ++
    "CBWBJBEDA+CBBPBRIBCB8BCAQAFCICYFFRDXBIBACGqBfBBANGqBBBABEBXBABJBAKACEBAVD0BAvBHB3BxEjDa" ++
    "BUAQFEDDADBHCEMMAR5BBAFACaBBcKBDCGBABDC8BBDC0BBDCGBABDCOBoBBDC2C5BPQlCCFDbTCQBZFaCDKHRN" ++
    "SOROMBCPjB3BAEA3CoCH8BBAF5CK+hBzCELbBEZmBWJkBiCAtCeBRHmBzNBKbBw3B9BCK3BCKFaBCC9BDBFBBDA" ++
    "FvF0ClICFC5BCFCHBABABAB+CkBBGBADCBGDDCFEMFCBGkDANAQM5DAEACJBACFGABABABPCDFEEAR8BnjC4HGD" ++
    "DBM5BBAFACnBHAQWJGBGBGBGBGBGBGBG6RCZIHECEElCGCBpCBDFaBBtCR-gBP0QvdG0CckV3CdBCcIDPKBUeBQ" ++
    "+CfC7BIC6DChCUQBCBDBWzjBOhBuBFDABBLxKWZyHeByAQEBJKEB8BXCBHUWDADhBBADBCECABAYCCKHCMFCFCF" ++
    "JGBGBaBBNGiDz3tKMWEgB48IdLC9D6BGMEFABJBMBEBABBBBBbD1BaEGpGSvBClB8BJnDABADABABABABtD4BZG" ++
    "ZLnBC+DFCFCFCC3BLBZBSBBBOCN2BqD5CkBbIyDgBfB-NzF5BKzC3BEHBEaBtES3BE3BE7BIjBMKBOBGBBBKBOB" ++
    "GBBDjBMmJJVKHYFB9BBI5CFCABbBBBDACWKWJ+1CSBBKVKZGZ6BnBGB0CAPDBCByaByDy3BHBxxlBKVKSNReD8C" ++
    "nBiBNiBN3B6BxJWqH9BGBQFoByKAIVaBReBUxWMkBpBBCANcB0BYw3BzACAI2BDAMfBODVABA3BRBYTBvBGBABD" ++
    "BOBJHeB6BHCBCVBGBBBEDASAME+JBACAB5BBAZABAcBkBSDUC+fBUBBAoFeB9BD4BfBUArBaBNA7Cw5BGpFbBkD" ++
    "vB-HCACHBBBXPABAuCHC6BQABAyAK7BHAVALdBTAS8C7G0B-IB4BRAhBzgDGBBB5BVAZFBBB-OAXbB4ISPABMB1" ++
    "BsDAfCpy6DeDR3GciC0DPf1BRFZqsDF6SplGz2nBoRH+ReCRzSfBQD-UFSgNcBjGvB0BYCYcBaCFA2CM0CBBAOE" ++
    "Jl6H9B-1DiDtfIDBGBBB2JPAzCCAODIbM48CaDFMDIHJ6rFkCB6CBBCACBCDBLBABGB0CBDCHBGBxBDBEBADGBj" ++
    "KCYBYB+BYB+BYB+BYB+BYBHkpB+GF5ItBiEcBKGQA1KzSbB4Px4HzCAfG+BCBBBGCEJB0HGBDBBBOB4GrB3CHAk" ++
    "5BDBwBBBACABJBDBABAGAEABABABCBBBACABABABABABBBACDBGBDBDBABJBQFCBEBQ4aEvm9B0Bt8ECdkFCg9H" ++
    "PdT2dCtQ2fBaqEF99I")]

/-- The characters of the property with a name. -/
def property? (name : String) : Option CharSet :=
  (binaryProperties.find? (·.1.contains name)).map fun entry => .ofPacked entry.2

end EventRules.Text
