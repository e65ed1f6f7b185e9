import EventRules.Text.CharSet
import EventRules.Text.Mapping

/-!
# General categories

The general category of every code point, and the sets of characters that categories make.
-/

namespace EventRules.Text

/-- The general categories of Unicode by their short names: letters, marks, numbers, punctuation, symbols,
separators and others. -/
inductive Category
  | Lu | Ll | Lt | Lm | Lo
  | Mn | Mc | Me
  | Nd | Nl | No
  | Pc | Pd | Ps | Pe | Pi | Pf | Po
  | Sm | Sc | Sk | So
  | Zs | Zl | Zp
  | Cc | Cf | Cs | Co | Cn
  deriving DecidableEq, Repr

namespace Category

/-- All categories in the order of their numbers in the table. -/
def all : List Category :=
  [Lu, Ll, Lt, Lm, Lo, Mn, Mc, Me, Nd, Nl, No, Pc, Pd, Ps, Pe, Pi, Pf, Po, Sm, Sc, Sk, So, Zs, Zl, Zp,
    Cc, Cf, Cs, Co, Cn]

/-- The category with a number. -/
def ofCode (n : Nat) : Category :=
  all[n]?.getD Cn

/-- The code points of every category but the last, unassigned. -/
def table : List (Nat × Nat × Category) :=
  (valuedRangesOf 0 (unpack packed)).map fun r => (r.1, r.2.1, ofCode r.2.2)
where
  packed : String :=
    "A-ZAAWACRAATACRAANAAOAARAASAARAAMABRAJIABRACSABRAZAAANAARAAOAAUAALAAUAZBAANAASAAOAASA0B" ++
    "ZAAWAARADTAAVAARAAUAAVAAEAAPAASAAwAAVAAUAAVAASABKAAUAABABRAAUAAKAAEAAQACKAARAWAAASAGAAX" ++
    "BAASAHBAAAAABAAAAABAAAAABAAAAABAAAAABAAAAABAAAAABAAAAABAAAAABAAAAABAAAAABAAAAABAAAAABAA" ++
    "AAABAAAAABAAAAABAAAAABAAAAABAAAAABAAAAABAAAAABAAAAABAAAAABAAAAABAAAAABAAAAABAAAAABAAAAB" ++
    "BAAAAABAAAAABAAAAABAAAAABAAAAABAAAAABAAAAABAAAABBAAAAABAAAAABAAAAABAAAAABAAAAABAAAAABAA" ++
    "AAABAAAAABAAAAABAAAAABAAAAABAAAAABAAAAABAAAAABAAAAABAAAAABAAAAABAAAAABAAAAABAAAAABAAAAA" ++
    "BAAAAABAAAAABABAAABAAAAABAAAACBABAAABAAAAABABAAABACAABBADAAABABAAABACAACBABAAABABAAABAA" ++
    "AAABAAAAABABAAABAAAABBAAAAABABAAABACAAABAAAAABABAABBAAEAAAACBADEAAAAACAABAAAAACAABAAAAA" ++
    "CAABAAAAABAAAAABAAAAABAAAAABAAAAABAAAAABAAAAABAAAABBAAAAABAAAAABAAAAABAAAAABAAAAABAAAAA" ++
    "BAAAAABAAAAABAAAABBAAAAACAABAAAAABACAAABAAAAABAAAAABAAAAABAAAAABAAAAABAAAAABAAAAABAAAAA" ++
    "BAAAAABAAAAABAAAAABAAAAABAAAAABAAAAABAAAAABAAAAABAAAAABAAAAABAAAAABAAAAABAAAAABAAAAABAA" ++
    "AAABAAAAABAAAAABAAAAABAAAAABAAAAABAAAAGBABAAABABAABBAAAAABADAAABAAAAABAAAAABAAAAABAAAA4" ++
    "CBABEAZBARDADUALDANUAEDAGUAADAAUAADAQUAfDFAAAAABAAAAABAADAAUAAAAABCADACBAARAAAEBUAAAAAR" ++
    "ACABAABBAAABAQABIAA2BBAAAABBACAACBAAAAABAAAAABAAAAABAAAAABAAAAABAAAAABAAAAABAAAAABAAAAA" ++
    "BAAAAABAAAAABAAAAEBAAAAABAASAAAAABABAABBAiBAAfBBAAAAABAAAAABAAAAABAAAAABAAAAABAAAAABAAA" ++
    "AABAAAAABAAAAABAAAAABAAAAABAAAAABAAAAABAAAAABAAAAABAAAAABAAAAABAAVAEFABHAAAAABAAAAABAAA" ++
    "AABAAAAABAAAAABAAAAABAAAAABAAAAABAAAAABAAAAABAAAAABAAAAABAAAAABAAAAABAAAAABAAAAABAAAAAB" ++
    "AAAAABAAAAABAAAAABAAAAABAAAAABAAAAABAAAAABAAAAABAAAAABAAAAABABAAABAAAAABAAAAABAAAAABAAA" ++
    "AABAAAAABAAAABBAAAAABAAAAABAAAAABAAAAABAAAAABAAAAABAAAAABAAAAABAAAAABAAAAABAAAAABAAAAAB" ++
    "AAAAABAAAAABAAAAABAAAAABAAAAABAAAAABAAAAABAAAAABAAAAABAAAAABAAAAABAAAAABAAAAABAAAAABAAA" ++
    "AABAAAAABAAAAABAAAAABAAAAABAAAAABAAAAABAAAAABAAAAABAAAAABAAAAABAAAAABAAAAABAAAAABAAAAAB" ++
    "AAAAABAAAAABAAAAABAAAAABAAAAABAAAAABAAAAABB5BACADAFRA8BBAARAAMCBVAATBcBFAAMAAFAARABFAAR" ++
    "ABFAARAAFIwEEDEABRLFwACSABRAATABRABVAKFAARAAwACRA-EAADAJEAUFAJIADRABEAAFA2DEAARAAEAGFAA" ++
    "wAAVAFFABDABFAAVADFABEAJIACEABVAAEANRBAwAAEAAFAzEAwFCoCEAKFAAEOJIA0BEAIFABDAAVACRAADCAF" ++
    "ABTAVEADFAADAIFAADACFAADAEFCORBYEACFCARBKEFXEAAUAGEABwFIFA8BEAADAXFAAwA-FAAGAlBEAAFAAGA" ++
    "AFAAEACGAHFADGAAFABGAAEAGFAJEABFABRAJIAARAADAOEAAFABGBHECBECVEBGEBAEDDECAFAAEACGADFCBGC" ++
    "BGAAFAAEIAGEBEBCEABFCJIABEABTAFKAAVAATAAEAARAAFCBFAAGBFEEBECVEBGEBBEBBEBBECAFBCGABFEBFC" ++
    "CFDAFHDEBAEHJIABFACEAAFAARKBFAAGBIEBCEBVEBGEBBEBEECAFAAEACGAEFBBFAAGBBGAAFCAEPBEABFCJIA" ++
    "ARAATHAEAFFBAFABGBHECBECVEBGEBBEBEECAFAAEAAGAAFAAGADFCBGCBGAAFHBFAAGEBEBCEABFCJIAAVAAEA" ++
    "FKKAFAAEBFEDCEBDEDBEBAEBBEDBEDCEDLEEBGAAFABGDCGBCGAAFCAEGAGOJIACKAFVAATAAVFAFACGAAFAHEB" ++
    "CEBWEBPECAFAAEACFADGBCFBDFHBFBCEBBECBEABFCJIHARAGKAAVAAEAAFABGAARAHEBCEBWEBJEBEECAFAAEA" ++
    "AGAAFAEGBAFABGBBGABFHBGFCEBBEABFCJIBBEAAGMBFABGAIEBCEB8BEABFAAEACGADFBCGBCGAAFAAEAAVECE" ++
    "AAGAGKACEABFCJIAIKAAVAFEBAFABGBREDXEBIEBAECGEDAFECGACFBAFBHGGJICBGAARMfBEAAFABEAGFEATAF" ++
    "EAADAHFAARAJIABR5BBEBAEBEEBXEBAEBJEAAFABEAIFAAECEEBADBGFBJICDE0BAEACVAORAAVAARACVABFAFV" ++
    "AJIAJKAAVAAFAAVAAFAAVAAFAANAAOAANAAOABGAHEB3BEENFAAGAEFAARABFAEEAKFB3BFBHVAAFAFVBBVAERA" ++
    "DVABR5BaBEABGADFAAGAFFAAGABFABGABFAAEAJIAFRAFEABGABFADEACFAAEACGABEAGGACEADFAMEAAFABGAB" ++
    "FAFGAAFAAEAAGAJIACGAAFABVA5BABAAFAACaBBAARAADACBA8KEBDECGEBAEBDEC8BEBDEC0BEBDECGEBAEBDE" ++
    "COEBoBEBDEC2CECCFAIRATKDPEAJVGlCACFBCAMAbTEAAVAARAQEAAWAZEAANAAODaCEACRACJAHEHREACFAAGJ" ++
    "SEABFAAGABRJREABFMMEBCEBBFMjBEABFAAGAGFAHGAAFABGAKFACRAADACRAATAAEAAFCJIGJKGFRAAMADRACF" ++
    "AAwAAFAJIG2BEAADAkBEHEEABFA1BEAAFAAEF5CEK+EBCFADGABFACGEBGAAFAFGACFEAVDBRAJIAzECEELbBEE" ++
    "ZEGJIAAKD1BVAWEABFABGAAFCBRAkBEAAGAAFAAGAGFBAFAAGAAFABGAHFAFGAJFCAFAJIGJIGGRAADAFRCNFAA" ++
    "HA+FCLFUDFAAGAeBEAAFAAGAEFAAGAAFAEGAAFABGAHEBBRAJIAGRAJVAIFAIVACRABFAAGAzEAAGADFABGABFA" ++
    "AGACFABEAJIAbBEAAFAAGABFACGAAFAAGACFABGIDRA3BEAHGAHFABGABFDERAJIDCEAJIAzEAFDABRAIBAAAAA" ++
    "BFaBACCAAHRICFAARAMFAAGAGFADEAAFAFEAAFABEAAGABFAAEFbBBAuBDAMBAADA1BBA4BDAvBFAAAAABAAAAA" ++
    "BAAAAABAAAAABAAAAABAAAAABAAAAABAAAAABAAAAABAAAAABAAAAABAAAAABAAAAABAAAAABAAAAABAAAAABAA" ++
    "AAABAAAAABAAAAABAAAAABAAAAABAAAAABAAAAABAAAAABAAAAABAAAAABAAAAABAAAAABAAAAABAAAAABAAAAA" ++
    "BAAAAABAAAAABAAAAABAAAAABAAAAABAAAAABAAAAABAAAAABAAAAABAAAAABAAAAABAAAAABAAAAABAAAAABAA" ++
    "AAABAAAAABAAAAABAAAAABAAAAABAAAAABAAAAABAAAAABAAAAABAAAAABAAAAABAAAAABAAAAABAAAAABAAAAA" ++
    "BAAAAABAAAAABAAAAABAAAAABAAAAABAAAAABAAAAABAAAAABAAAAABAAAAABAAAAABAAAAABAAAAABAAAAABAA" ++
    "AAIBAAAAABAAAAABAAAAABAAAAABAAAAABAAAAABAAAAABAAAAABAAAAABAAAAABAAAAABAAAAABAAAAABAAAAA" ++
    "BAAAAABAAAAABAAAAABAAAAABAAAAABAAAAABAAAAABAAAAABAAAAABAAAAABAAAAABAAAAABAAAAABAAAAABAA" ++
    "AAABAAAAABAAAAABAAAAABAAAAABAAAAABAAAAABAAAAABAAAAABAAAAABAAAAABAAAAABAAAAABAAAAABAAAAA" ++
    "BAAAAABAAAAABAAAAABAAAAABAAAAABAAAAIBAHAAFBCFACHBAHAAHBAHAAFBCFACHBBAABAABAABAAAHBAHAAN" ++
    "BCHBAHCAHBAHCAHBAHCAEBBBBADAAACAAUAABACUACBBBBADAAACACUADBCBBADABCUAHBAEAACUCCBBBBADAAA" ++
    "CABUBKWAEwAFMABRAAPAAQAANABPAAQAANAAPAHRAAXAAYAEwAAWAIRAAPAAQADRABLACRAASAANAAOAKRAASAA" ++
    "RAALAJRAAWAEwBJwAAKAADCFKACSAANAAOAADAJKACSAANAAOBMDD1BTOMFADHAAFACHALFPBVAAAADVAAAABVA" ++
    "ABACAABBACAAABAAVAAAABVAASAEAAFVAAAAAVAAAAAVAAAAAVADAAAVAABADAAABADEAABABVABBABAAESAAAA" ++
    "DBAAVAASABVAABAAVAPKA2BJAAAAABADJAAKABVEESAEVABSADVAASABVAASABVAASAGVAASA+VABSABVAASAAV" ++
    "AASA+VAbISAHVAANAAOAANAAOATVABSAGVAANAAOAgCVAASAzVAYSA7BVAFSA7CVWKVVrBKAdCVAVKAmFVAASAI" ++
    "VAASAlBVAHSAeDVAASAnHVAANAAOAANAAOAANAAOAANAAOAANAAOAANAAOAANAAOAzKAbBVAESAANAAOA+SAANA" ++
    "AOAANAAOAANAAOAANAAOAANAAOAPSAvHVA2ESAANAAOAANAAOAANAAOAANAAOAANAAOAANAAOAANAAOAANAAOAA" ++
    "NAAOAANAAOAANAAOAuBSAANAAOAANAAOA-SAANAAOA1ISAfBVAUSABVAFSA6BVC9EVAfBAAfBBAAAAABACAABBA" ++
    "AAAABAAAAABAAAAABADAAABAAAABBAAAAFBABDACAAABAAAAABAAAAABAAAAABAAAAABAAAAABAAAAABAAAAABA" ++
    "AAAABAAAAABAAAAABAAAAABAAAAABAAAAABAAAAABAAAAABAAAAABAAAAABAAAAABAAAAABAAAAABAAAAABAAAA" ++
    "ABAAAAABAAAAABAAAAABAAAAABAAAAABAAAAABAAAAABAAAAABAAAAABAAAAABAAAAABAAAAABAAAAABAAAAABA" ++
    "AAAABAAAAABAAAAABAAAAABAAAAABAAAAABAAAAABAAAAABAAAAABAAAAABAAAAABAAAAABAAAABBAFVAAAAABA" ++
    "AAAABACFAAAAABFDRAAKABRA5BBBABFABCnBEHADAAROAFAWEJGEBGEBGEBGEBGEBGEBGEBGEB-FABRAAPAAQAA" ++
    "PAAQACRAAPAAQAARAAPAAQAIRAAMABRAAMAARAAPAAQABRAAPAAQAANAAOAANAAOAANAAOAANAAOAERAADAJRAB" ++
    "MADRAAMAARAANAMRABVACRAANAAOAANAAOAANAAOAANAAOAAM2BZVBoCVMlGVwPVAAWACRAAVAADAAEAAJAANAA" ++
    "OAANAAOAANAAOAANAAOAANAAOABVAANAAOAANAAOAANAAOAANAAOAAMAANABOAAVAIJADFABGAAMAEDABVACJAA" ++
    "DAAEAARABVBlCECBFABUABDAAEAAMApCEAARACDAAEFaBEBtCEBBVADKAJVA-EA5BVJAVAPEA+VBJKAzVAHKAAV" ++
    "AOKA-VAJKA6BVAOKAvJVAvdGEAvBVAkgUEAADAm3BEDmBVJ7BEAFDABRAbIEAADACRAPEAJIABEUAAAABAAAAAB" ++
    "AAAAABAAAAABAAAAABAAAAABAAAAABAAAAABAAAAABAAAAABAAAAABAAAAABAAAAABAAAAABAAAAABAAAAABAAA" ++
    "AABAAAAABAAAAABAAAAABAAAAABAAAAABAAAAABAAEAAFACHAARAJFAARAADAAAAABAAAAABAAAAABAAAAABAAA" ++
    "AABAAAAABAAAAABAAAAABAAAAABAAAAABAAAAABAAAAABAAAAABAAAAABABDABFA5CEAJJABFAFRIWUAIDABUAA" ++
    "AAABAAAAABAAAAABAAAAABAAAAABAAAAABAAAACBAAAAABAAAAABAAAAABAAAAABAAAAABAAAAABAAAAABAAAAA" ++
    "BAAAAABAAAAABAAAAABAAAAABAAAAABAAAAABAAAAABAAAAABAAAAABAAAAABAAAAABAAAAABAAAAABAAAAABAA" ++
    "AAABAAAAABAAAAABAAAAABAAAAABAAAAABAAAAABAAAAABAAAAABAADAHBAAAAABAAAAABABAAABAAAAABAAAAA" ++
    "BAAAAABAAAAABAADABUAAAAABAAAAABAAEAAAAABAAAACBAAAAABAAAAABAAAAABAAAAABAAAAABAAAAABAAAAA" ++
    "BAAAAABAAAAABAAAAABAEAAABAEAAABAAAAABAAAAABAAAAABAAAAABAAAAABAAAAABAAAAABADAAABAAAAABAB" ++
    "AAABAAAAABAAAAABAAAAABAAAAABAAAAABAAAAABAAAAABAAAUDDAAAAABAAEABDAABAGEAAFACEAAFADEAAFAW" ++
    "EABGABFAAGADVAAFDFKABVAATAAVGjBEADRIBGAhBEAPGABFIBRAJIGRFAFEACRAAEAARABEAAFAJIAxEAHFABR" ++
    "AWEAKFABGLARAyEDCFAAGAeBEAAFABGADFABGABFACGAMRBADAJIEBRAEEAAFAADAIEAJIAEEB8BEAFFABGABFA" ++
    "BGABFJCEAAFAHEAAFAAGCJICDRAPEAADAFEACVAAEAAGAAFAAGAhBEAAFAAEACFABEABFAEEABFAAEAAFAAEYBE" ++
    "AADABRAKEAAGABFABGABRAAEABDAAGAAFKFECFECFEJGEBGEBaBBAAUADDAIBAADABUEfCBA2BEABGAAFABGAAF" ++
    "ABGAARAAGAAFCJIG3tKEMWEEgBEEvvBxAv7GyAdLEC9DE6BGBMEBFAEAAFAJEAASAMEBEEBAEBBEBBEBbDEAQUA" ++
    "PVAaLEAAOAANAPVAvBEABVAlBEAHV0BLEAATACVAPFAGRAANAAOAARGPFAARABMABLAANAAOAANAAOAANAAOAAN" ++
    "AAOAANAAOAANAAOAANAAOAANAAOABRAANAAOADRACLACRBDRAAMAANAAOAANAAOAANAAOACRAASAAMACSBARAAT" ++
    "ABREEEB6EECAwBCRAATACRAANAAOAARAASAARAAMABRAJIABRACSABRAZAAANAARAAOAAUAALAAUAZBAANAASAA" ++
    "OAASAANAAOAARAANAAOABRAJEAADAcBEABDA+EDFECFECFECCEDBTAASAAUAAVABTBAVADSABVKCwABVCLEBZEB" ++
    "SEBBEBOECNE2BqDEFCREcBKDIVAkBJADKAQVABKACVBMVDAVfBcBVAAF2EyEDgBEPAFAwKE-EADKJTEAAJAHEAA" ++
    "JF5BEAEFFzEBARA3BEEHEAARAEJaB7BAA7BBAdCECJIG3BAE3BBE7BEIjBELARAKABOABGABBABKBBOBBGBBBBD" ++
    "jBEMmJEJVEKHEYFDB9BDBID5CFECAEBbBEBBEDAECWEBARAHKAWEABVAGKA+EIIKgBSEBBEFEKAVEAFKDARAZEF" ++
    "ARAZE6BnBEEBKABEAPKCdBKAAEACFBBFFDFADEBCEByECCFEAFAIKHIRHyEABKAARAyEACK0BHEAAVAxEABFEEK" ++
    "AGRJlBEDGRAVECHKASEFHKAREHDRMGKgC8CEnBiBANiBBHFKA3BEADFIJIGJIADEAADAAEAVADEFAAMAADAVBIB" ++
    "SgG+KB9BEBBFAAMCBEQCEAADABEIARAHV1BFFAyEAJKAAEIVEAKFADKAERWREADFADR6BUEAGKUWEJAGAAFAAGA" ++
    "kBEAOFAGRETKAJIAAFABEABFAAEJCFAAGAcBEACGADFABGABFABRAAwADRAAFKAwCYEHJIGCFA3BEAEFAAGAHFB" ++
    "JIADRAAEABGAAEI2BEAAFABRAAEJBFAAGAfBEACGAIFABGADEADRADFAARAAGAAFAJIAAEAARAAEACRBTKLREBY" ++
    "EACGACFABGAAFAAGABFAFRAAFABEAAFuBGEBAEBDEBOEBJEAARGeBEAAFACGAHFFJIGBFABGBHECBECVEBGEBBE" ++
    "BEEBBFAAEABGAAFADGCBGCCGCAEGAGFEEABGCGFDEFLJEBAECAEB5BEBAEACGAFFBAGCAGBDGBBGAAFAAGAAFAA" ++
    "EAAFAAEABRBBRIBFzkBEACGAHFABGACFAAGAAFADEAERAJIABRBARAAFACE+fBEACGAFFAAGAAFADGABFAAGABF" ++
    "ABEAARAAEIJI6FeBEACGADFCDGABFAAGABFAWRADEABF2BfBEACGAHFABGAAFAAGABFACRAAELJIGMRTaBEAAFA" ++
    "AGAAFABGAFFAAGAAFAAEAARGJIGTIywECAFAAGAAFABGADFAAGAEFEJIABKACRAAVAGEpFbBEACGAIFAAGABFAA" ++
    "R4D-AA-BAJIAIKMHECAECHEBBEBXEAFGBBGCBFAAGAAFAAEAAGAAEAAGAAFACRJJI6CHEC6BEACGADFCBFADGAA" ++
    "FAAEAARAAEAAGxAEAJFA7BEAFFAAGAAEADFAHRAAFIAEAFFABGACFAdBEAMFAAGABFACRAAEAERN8CEHJRmCAFA" ++
    "AGACFAAGAAFAAGoC0BEAAROJIGIEB4BEAAGAGFBFFAAGAAFAAEAERKJIASKDBRAzECVFBAGAGFAAGABFAAGABF9" ++
    "CGEBBEB5BEAFFDAFBBFBGFAAEAAFIJIGFEBBEB-EAEGBBFBBGAAFAAGAAFAAEHJIG8BEAADABEEJImHSEABFABG" ++
    "ABRHBFAAEAAGAMEB1BEABGAEFDBGAAFAAGAAFAMRAJIAAFlCAEPUKAHVADTAQVNARApyE6DeDJBERL3GEciC0DE" ++
    "ABRNf1BEAPwAAFAFEAOFKqsDEF6SEplGzEALFACGACFAJI6mBoREH+EBJIEBRAeCEBJIGzECEFAARKfBEAGFAER" ++
    "ADVADDAARAAVKJIBGKBUEFSEgNCDA7BEABDACRAJI6G-AA-BAWKADRFYACYBcBaCEEAFAAEAmBGHDFAMD0CBDAA" ++
    "RAADAAFLBGABDACJJl6HE9B-E1DiDEtfIDDBGDBBDB2JEPAEzCECAEODEIbME48CaDEFMEDIEHJECAVABFAARAD" ++
    "wsqDfHVAJIACVDjNVGWVPPVAASPdBFCWFJjDVsBlHVK6BVCrBVABGACFACVAFGAHwAHFABVAGFAzVADFAsBVV1C" ++
    "VACFAAVqDTKMTKMmCVJYK7EZAAZBAZAAGBBRBAZAAZBAAABBACAACBACDABHAADBBABBGBBKBAZAAZBABABDACH" ++
    "ABGABZBABABDABEABAADGABZBAZAAZBAZAAZBAZAAZBAZAAZBAZAAZBAZAAxBCYAAASAYBAASAFBAYAAASAYBAA" ++
    "SAFBAYAAASAYBAASAFBAYAAASAYBAASAFBAYAAASAYBAASAFBAAAAABChBIAvPVAmBFADVAhBFAHVAAFANVAAFA" ++
    "BVAERPEFBOFg2BJBAAEATBGFBlGGFBQFCGFBBFBEFFtBD1BAFgDcBEDGFAGDCJIEAEAAV0KzEAAFRbBEADFAJIF" ++
    "ATgOwEAADADFAJImGzEABFAAEAJIEAR0G+EBCEAAFABEAAFAGEABFAEEAAFIAEAAD0HGEBDEBBEBOEB4GECIKAG" ++
    "F9B1BAA1BBAGFAADEJIEBRhYqBKAAVACKAATADKcCcBKAAVAOK2GDEBwEBBEBAECAEBJEBDEBAEBAEGAEEAEBAE" ++
    "BAEBCEBBEBAECAEBAEBAEBAEBAEBBEBAECDEBGEBDEBDEBAEBJEBQEFCEBEEBQEkBBSeIbBVE3DVMOVCOVBOVB4" ++
    "BVKMKA0FVoByVNbBVEIVHBVOFVqEqHVAEUAoWVDQVDMVDpGVGLVEAVPLVEnBVIJVG7BVIzVCLVEBVOIS7BnKVIN" ++
    "VCMVDKVDoBVBAVEPVCLVEJVHiEVBrCVAJIAAV50Bvm9BE0Bt8EECdkFECg9HEPdTE2dCtQE2fBaqEEF99IE7siV" ++
    "Aw+vCw0EfHFggvBtvvByCtvvBy"

/-- The characters of some categories. -/
def set (categories : List Category) : CharSet :=
  let listed := CharSet.ofRanges ((table.filter (categories.contains ·.2.2)).map fun r => (r.1, r.2.1))
  if categories.contains Cn then
    listed.union (CharSet.complement (.ofRanges (table.map fun r => (r.1, r.2.1))))
  else listed

def letters : List Category := [Lu, Ll, Lt, Lm, Lo]
def marks : List Category := [Mn, Mc, Me]
def numbers : List Category := [Nd, Nl, No]
def punctuation : List Category := [Pc, Pd, Ps, Pe, Pi, Pf, Po]
def symbols : List Category := [Sm, Sc, Sk, So]
def separators : List Category := [Zs, Zl, Zp]
def others : List Category := [Cc, Cf, Cs, Co, Cn]

end Category

/-- The combining marks of all kinds. -/
def markSet : CharSet := Category.set Category.marks

end EventRules.Text
