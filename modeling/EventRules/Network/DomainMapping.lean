import EventRules.Text.CharSet
import EventRules.Text.Mapping

/-!
# Characters of domain names

What becomes of each character of a domain name before it is looked up: capitals and other variants are replaced,
invisible characters are dropped, and some characters may not occur. The composed normal form is taken afterwards,
so what differs only by it has no entry here.
-/

namespace EventRules.Network

open Text

/-- The characters from U+0080 up that are dropped. -/
def droppedInDomain : CharSet := .ofPacked <|
  "dFA1VAfgDBjiBBlCErvBAkCEFFk7EAr4jBPfHA0FAv7fBDf6FH5sbYfH"

/-- The characters from U+0080 up that may not occur. -/
def refusedInDomain : CharSet := .ofPacked <|
  "0E-oWBGDHABAUAdMA6BBiBBDAnBHxDGQWA0GAgBBrBB5DNrBBhBBPAyBBALE0BGbCA1FAIBCBWAHABCEBJBCBEHBD" ++
  "CAFBZBDAGDCBWAHACACACBBAFDCBDCBGEABGRJDAJADAWAHACAFBKADADBBOEBMGHADAIBCBWAHACAFBJBCBDGDDC" ++
  "AFBSJCAGCDAECCABACCCCDCMDFCDAEBBFBNVENADAXAQBJADAEGCADACBEBKGWADAXAKAFBJADAEGCEDAEBKADLNA" ++
  "DAjBADAGDQBwADASCYAJABBHCBDGABAIFKBDLqBDz4BCABAFAYABAXBFABAHAKBE-8CA4BD7BA4BAPAN4B6GABEBB" ++
  "pLAEBHABAEB9BAEB1BAEBHABAEBPApBAEB3CB0BCwFmCBGB0UAyCpCGWIYIULNADACLuCBKFKFwFpCGbBE6CJ-AMD" ++
  "MDBCaBBFKcBDwFLCuBB1CAzBLFKFOBeBBMTdCA6FHsBCPCuBEbBBLHbBEmQBGB6BBGBIABABABA-BlBAPAOBGATBD" ++
  "AJAOBUCBGmBEIBxANC2BN1BOcEDqUVLU8BTomBBuLEdBABEBBoBGCNYIHAHAHAHAHAHAHAHAuD1BwApCLmG9B0CAm" ++
  "CB7DEbBAuCAmCJfBA2NAEAQAk5yCnBIsKToFHtGTsBCKFoBH6CHMFkDK+CeCALD1BAnBIOBKB7DXyJGBGBGIHAHAs" ++
  "BDuDBKF4tKLXDhBD00Cv7GeLBaD5BHLFEwAFABACACAaU-2BAGGQA1BBTAEDFA7EBBAuFCGBGBGBDCHAHQMAwATAC" ++
  "APBO1BrDEDDdBCoCANCBeBeB1EzChBOyD4BI+EbBE+A5BDO9BuEBKF4BD4BD8BHkBKMAPAHACALAPAHACCkBLnJIW" ++
  "JIXGAaBAJ4CGBBAcBACCBBXA8CHJfBTACE1BCxEx5BoBDUBiBACEIADAzBDDKGJG0C-7BDMImBCzBxEwGELHfC9Cm" ++
  "BjBMjBGeBHKF6BCzHCfG-AaBADBCPGHJ0BeBHaBVw5ByTXIeCD4BIuBAFMZGKFlBASH7BI0DAUKSAfBtBHABAEAPA" ++
  "LFrBEKFEAIBCBWAHACAFAKBCBDBBFBEHBHCFKKABBBA6BAKABBBAEAKACHCysCAFz8CHK5FmBB6B1B5CKKFNSqBFK" ++
  "FUxxBPDXoFsB3DjCLIBBBIACA+ACBMIK5CIBeBBLw8CHjCM9CGKlCInC2BNKFJAdBAOJzC0BBWAO8CHACAcBCBACA" ++
  "JHKFGACA5BACAGGKFcBDKlHZGRA9BCzkCBOiBMry5DfDAFK4GbiC3DMg1BPWJrsDE7SolGqB5mBpRG-AKDhCAKF+B" ++
  "GJ6CJKAHAVETfNqB5GrCEZBZbBbCDpBGRvBFKHIm6H8B0B0DjDsfIEAHACA3JOByDBBNEHcM38CbDENCJGKBIrqDt" ++
  "HCkNFXOROeBBXIkDrBmHJ7BB2GU6CpDULULnCIZ6ElCA7CACBBBCBEAMABAHA1CAEBIAHAyAEAFABCHAkKB4JBuVO" ++
  "FAPf2B-FGkGHARBHACAFEuB0BBfDdBCOBKDCvJ-QqBEBfOaBlGbBDBvF-AWHCvGHAEACAPA5GBQ8BcCDKDCgY4CbC" ++
  "tB1GEAxACABBBAKAEABABFBDBABABADACABBBABABABABACABBEAHAEAEABAKAREDAFARjBCdIcBD4DLPBPAPA5BK" ++
  "dFnBzMcBDJGCNGpEp+CRCNCqGFMDBOMDoBHKF8BH+BMDCNJ6BoKHOBNCLCpBABDQBMDKGjEA7D40B0n9B-u8EBekF" ++
  "Bh9HOeT1dCuQ1fBbqEEa9I54jVgHfgvF"

/-- The characters from U+0080 up that are replaced. -/
def replacedInDomain : Mapping := .ofPacked (
    "0FBBvHKBBhEICBvHDBBegBEBBfIBBBlEGXB0CYHB0C8BYCCkBCCCFDCCIECCJXCCeBBBhHBDCCGBBnQCBB4NBCC" ++
    "CEBBsMBBBCCCBqMCBBCDBBuEBBBkMBBBmMBBBCCBBqMBBBuMCBB6NBBB2NBBBCEBB6NBBBaNCBBcNBDCCGBBkNB" ++
    "BBCCBBkNDBBCCBBkNBBBCCCBiNCCCCEBBmNBBBCEBBCRICCRJCCWBBCCBB1GBBBfDBUCC8BBB3ICJCCYBBm2VBB" ++
    "BCCBB5KBBBg2VDBBCCBB5MBBBaEBBBeEBFCCaDBBf4BBBBlEBBBf4BBBB14BBBBlDBBBjDBBB9DBBBv3BBBBt3B" ++
    "8BBBpHBBB97BBBBt6BBBBl6BBBBtE1DBB8HbBCCCGBBCJBB8HHBBcCCDBaCEBB0ECCBuDDRB0CSJB0CcBBBQBBB" ++
    "rBBBBhBBBBZBBBLBBBRBBBzBBBbBCMCCYBBbDBBBvCBBBtCCBBnDBBBvDCBBCCBBbDBBBCDDB3IDQB0FQ0BB0Cg" ++
    "CRCCaBxCCmBBB+BHCCPgBCC1D6BB0DreCBBBkM6BB06O7BBB06OGBB06OfBBBvBsXGBP84CBBr4MBBBp4MBBB74" ++
    "MBCB34MCBB54MBBBn3MBBB72MBBB6s4CBBBCHbBBvrFdBDBvrFfDBBlcOBBBd4OBCCncODBBncOBBB9lNBIBncO" ++
    "JBBpcOBBBjhNBBBrcOBBBpcOBCBncOCBBlcOBBB3eOBCB7fNCBB7EBBB9eOBCB7eOCBB1fNBCBveNCBBbeOCBB7" ++
    "eOBBB5eOBBBb0OBBB5eOBBBtfNBCBrDCBBbeOBCB5eOCBBnDBBBleNBBB9eOBBBdDBDBlqMDCBjpMCBBhfOBBB1" ++
    "fOBCBteOCCB7rMCBBdqMBCB5qMPBBljM3BBBhkNBBBhjOBBBfkNBBBraOBBB5kNBBBjjOBBB3kNBBB1kNBBBrjN" ++
    "BDBnjNDBBnCBBBlgNBBBnjNBBB9CBBBngNBBBljNBBBpjNBEBnjNEBBjjNBCB1jNCBBj0OBCBpiNCBBnJBCBriN" ++
    "CBB1kOBDBniNDBBd0N1CbCCCrEBBjDDBBtrOCgBCC8DIBPQGBPQIBPQIBPQGBPRECPPIBPgCCBPCBBjEBBBt0ON" ++
    "BBbFBBBn1OBBBbFBBBp1ONCBPCBB7GBBBn2ONCBPCBBvGBBBr1OBBBNMBBvHBBBp2OBBBrHBBBp2OFBBvtPBBB1" ++
    "uPBBB3uPBBB5uPBBB7uPBBB9uPBBBbuPBBBduPBBBfuPBBBhuPBBBjuPHBBB+BBt0QgBBBt3QRBBv3QBBBf0QDG" ++
    "Bv3QGBBt4QBBBeZBBBt3QBCB95QCBB11QBKBv4QKBBt5QBBBeYBBBt4QBCB96QDBBt2QBBBn2QBBB52QBBBl1QB" ++
    "BBl3PBBBp2QBEBl2QEBBj2QBCBf2Q7DBBt9QFBBnaPDCB5aQCBB7aQBBB9aQBBBbaQBBBfuPBBBdaQBBBfaQBBB" ++
    "baQBCCdaQGDBhaQDBBjaQBBBlaQHBBjaQCBBplOCBBraQCBBtbQBBBb4QBCBjcQDBBjcQBCBlcQCBBoBBBBbcQB" ++
    "BB9cQBEB9mNEBBvcQDBBnnOBBBjoOBBBloOBBBtnOBBB2NFBB1eQBCB3eQCCBtdQYBBdfQEBBreQFBB1fQDBBvf" ++
    "QBCBjgQCBB3gQBBBdgQEBBrfQFBB1gQDBBvgQBCBjhQCBB3hQEBBCtWJBt2SmCwB95SwwBt6SwBBjbSmoBgBB0D" ++
    "0DBBCCBBdvUBBBbeHBBBduUDDCCGBBn1VBBBpvUBBBt1VBBBr1VCBBCDBBCHBB31WBBBd0WBCBt3VCiBCCbDCCC" ++
    "HBBCtDBBxgJBBsi+kCBBoaoBNBB0gPBBBeiPBBB8jPBBBojPBBBalPBBB0oPBBBcoPBBBipPBBB4rPBBBc3RBBB" ++
    "m5RBBB06RBBBc7RBBBi8RBBBq9RBBB2dRBBBaeRBBBueRBBBioRBBBcuRBBB20SBBBa0SBBB42SBBBk2SBBB84S" ++
    "BBB05SBBBg6SBBBm9SBBBoaSBBBccSBBBirTBBB00UBBBmsUBBB2uUBBBguUBBB4vUBBB60VBBBs4VBBBk2WBBB" ++
    "i5WBBB0dWBBBceWBBBgfWBBBqgWBBB4kWBBB8kWBBBqaXBBBcbXBBB2cXBBBqcXBBB0kXBBBekXBBBmkXBBBurX" ++
    "BBBgsXBBB8tXBBBmtXBBBe1YBBBe2YBBBg3YBBBe8YBBBmcZBBBgfZBBBogZBBBuuwBBB6vwBBBa4xBBB85xBBB" ++
    "06xBBB87xBBBk9xBBBs9xBBBgqxBBBurxBBBstxBBBatzBBBc1+BBBo2+BBBa6+BBBo7+BBB88+BBBk8+BBBqb+" ++
    "BBB2c+BBB0e+BBBch0BBBB8d1BBBBud1BBBB6e1BBBBce1BBBBqe1BBBBsf1BBBBuf1BBBBuk1BBBBc22BBBBk2" ++
    "2BBBBon2BBBBao2BBBBcr2BBBBor2BBBB8s2BBBBms2BBBBa23BBBBm23BBBBsg3BBBB8h3BBBB8k3BBBB8l3BB" ++
    "BB4o3BBBBs64BBBB874BBBB884BBBBks4BBBBe45BBBBo45BBBB2g5BBBBel5BBBB8o5BBBBqf6BBBB2o6BBBBs" ++
    "r7BBBBgt7BBBB018BBBB448BBBBa88BBBBu88BBBB898BBBB8b8BBBBuf8BBBBgg8BBBB269BBBBe69BBBBu69B" ++
    "BBBe79BBBBc89BBBB899BBBBe99BBBBae9BBBBge9BBBBqe9BBBB2cbBBBBsdbBBBB4bcBBBBqbcBBBB6dcBBBB" ++
    "qucBBBBivcBBBBu3dBBBBo6dBBBB4aeBBBB0beBBBBsbeBBBB0eeBBBB8geBBBBkseBBBBateBBBBe1fBBBBsgf" ++
    "BBBBoifBBBBovfBBBB01gBBBB81gBBBBuegBBBBcqgBBBB42hBBBBe2hBBBBm2hBBBB0tiBBBBgtiBBBB67jBBB" ++
    "BogjBBBBsgjBBBBojjBBBB8qjBBBB0rjBBBB6rjBBBBirjBBBBk1kBBBBm3kBBBB04kBBBBq4kBBBB6fkBBBBai" ++
    "kBBBBgikBBBBstkBBBB0ukBBBB4vkBBBBqelBBBBohlBBBB4ilBBBBemlBBBB0nlBBBB4nlBBBBmnlBBBBgplBB" ++
    "BB4imBBBB2bnBBBBkbnBBBBudnBBBB8fnBBBBmfnBBBB8gnBBBBegnBBBBsinBBBB2jnBBBB2knBBBBaknBBBB2" ++
    "lnBBBBmmnBBBBinnBBBB0onBBBBkrnBBBBgsnBBBBmsnBbBBBvtXCBB7tXkBBB7CCBBigRBCBmgRoHCB13QCBBh" ++
    "oPBBB33QBCBhoPCDB73QDGBjoPGBBb2QBDBl3QDBB52QBKBn3QKVBruPWCB15QCCBvpPCBBppPBBBnpPBBBfpPB" ++
    "BB9pPBBB7pPBBB35QBBB3pPBBB1pPBCB75QCBB55QBCB35QCBBt4QBBBr4QBFBp4QFBBl4QBBBf4QBBBt3QBBBh" ++
    "3QBBB93QBCB1pPCDBp2QDCB50QCBB10QBCBhvPCBBfvPBBBtuPBBBpuPEBBs6OBBBifOBBBa7OBBBckSBBB87OB" ++
    "BBc9OBBB67OBBBip1BBBBubOBBBs7OBBBa6OBBBooTBBB4pSBBBmhO5FBBmgRBBBe3WBBB2kZBBBgk4BZBBvlQB" ++
    "CBtlQCDBrlQDBBplQBCBnlQCFBllQFBB4psBBBBi2vBBBB870CBBBmg2CBBBcl3CBBB2q4CBBBg37CBBBuc9CBB" ++
    "BkhaCBBB2rcCBBBovdCBBBe4fCBBB49gCBBBqdhCDBB43aCCBB0oNBBBm0OBBBeoNBBBg5SBBB01OBBBgePBBBq" ++
    "nNBBB8ePBBBatNBBBgbQBBBs7wBBB0u+BBBgqyBBBm9wBBB6kfBBBB09SBBBalZBBBipwBBBe7wBBBma3BBBBin" ++
    "QBBB8u-BBBm0dBBBBcc3BBBBo1QBBBuj3BBBBq91BBBBgdTBBBqseBBBBq8PBBB4dQBBBi4zBBBamiBBBB07OBB" ++
    "BefPBBB0cyBBBcmNBBBgoNBBBamNBBBujVBBBmkQBBB49QBBBqeUBBBmbUBBBe32BBBB85OBBBi1dBBBBaaQBBB" ++
    "o6T0BBBr2BBBBp2BBBBn2BBBBl2BBCBj2BCBBh2BBBBf2BBBBd2BBBBb2BBBB92BBBB72BBBB52BBBB32BBBB12" ++
    "BBBBv1BBBBt1BBBBp1BBBBn1BBBBl1BBGBj1BGBBf1BBBBb1BBBB71BBBB31BBFBv0BFBBt0BBBBr0BBGBp0BGE" ++
    "Bn0B5qyXCC0COCCyBB35hCBBB15hC5EHCCQ-CCuBBBBJCCCEBB705CBFCCNBBCCBBfiiCDCCCGKCCUBB7kiCBBB" ++
    "tkiCBBBlkiCBBB1kiCBBB7kiCCBB3hiCBBBjiiCBBB9hiCBBB0qBBICCQBBvCBBB5kiCBBBf35CBCCCEBBdmiCB" ++
    "ICCQBB14jCVBBrnjCBBBtojCBBBpojCBBB5ojCBBBCDBB1djCBBBbajC3xBB93CBBBbCBBB5fkCBBBZKBBndkCH" ++
    "gCBvsbCgtTBBrjqDBBB1lqDBCBtkqDCDBhkqDDBBtjqDBBBrjqDBBBrftD7BBBtdqDBBBvdqDBBBddqDBBBfdqD" ++
    "BBBhdqDBBBjdqDBBBfdqDBBBhdqDBBBjdqDBBBldqDBBBjdqDBBBldqDBBBndqDBBBpdqDBBB7eqDBBB9eqDBBB" ++
    "beqDBBBdeqDBBB5eqDBBB7eqDBBB9eqDBBBbeqDBBBpeqDBBBreqDBBBteqDBBBveqDBBBbcqDBBBdcqDBBBfcq" ++
    "DBBBhcqDBBBfcqDBBBhcqDBBBjcqDBBBlcqDBBBreqDBBBteqDBBBveqDBBB1fqDBBB5fqDBBB7fqDBBB9fqDBB" ++
    "BbfqDBBB7fqDBBB9fqDBBBbfqDBCBdfqDCBBffqDBBBhfqDBBBjfqDBBB9fqDBBBbfqDBBBffqDBBBhfqDBBBff" ++
    "qDBBBhfqDBBBvfqDBBB1gqDBBB3fqDBBB5fqDBBBlfqDBBBnfqDBBB9eqDBBBbeqDBBBdeqDBBBfeqDBBB5eqDB" ++
    "BB7eqDBBB9eqDBBBbeqDBBB5eqDBBB7eqDBBB9eqDBBBbeqDBBBheqDBBBjeqDBBBleqDBBBneqDBBB7eqDBCB9" ++
    "eqDCBBbeqDBBBdeqDBBBfeqDBBB7eqDBCB9eqDCBBbeqDBBBdeqDBBBfeqDBBBneqDBBBpeqDBBBreqDBBBteqD" ++
    "BBBndqDBCBpdqDCBBrdqD2BBBbiqDBBBdiqDBBBfiqDBBBhiqDBBBvgqDBBB1hqDBBB5hqDBBB7hqDBBB5hqDBB" ++
    "B7hqDCBB5hqDBBB7hqDBBBlhqDBBBnhqDBBBhhqDBBBjhqDBBB7hqDBBB9hqDBBBbhqDBBBdhqDBBBtpqDBBBvp" ++
    "qDTBBviqDBBB1jqDBBB3jqDBBB5jqDhQBB7uuDBBBv07DCCBhtuDCBB7vuDBBBdtuDBCB107DwBBp1fDBBBt1fD" ++
    "BBB7tuDBBB9tuDBCBp0vDCBBnruDBBBlruDBCB927DCCBl27DCCB537DCCBd37DCEB937DGBBnuuDBBBluuDFBB" ++
    "ruuDBBBtuuDBBBvuuDBBB72vDBBBv47DDBBh1vDBBBl1vDBBBd1vDBBBb3vDBBB74fDBCB13vDCBBvtuDBBBttu" ++
    "DBCBh47DCBBn3vDBBBj3vDBCBd3vDCBBb3vDBBBf2vDBBBd2vDBBBh2vDCBBn0vDBCB94vDCBBl2vDVCBt5sDCC" ++
    "Bv5sDCCB16sDCCB36sDCCB56sDCBB76sDBBB96sDBCBb6sDCCBd6sDCBBf6sDBBBh6sDBCBj6sDCCBl6sDCBBn6" ++
    "sDBBBp6sDBCBr6sDCBBt6sDBBBv6sDBCB17sDCBB37sDBBB57sDBCB77sDCBB97sDBBBb7sDBCBd7sDCBBf7sDB" ++
    "BBh7sDBCBj7sDCCBl7sDCCBn7sDCCBp7sDCCBr7sDCBBt7sDBBBv7sDBCB18sDCBB38sDBBB58sDBCB78sDCBB9" ++
    "8sDBBBb8sDBCBd8sDCBBf8sDBBBh8sDBCBj8sDCBBl8sDBBBn8sDBCBp8sDCBBr8sDBBBt8sDBCBv8sDCBB19sD" ++
    "BBB39sDBCB59sDCBB79sDBBB99sDBBBb9sDBBBv8sDBBB19sDBBB39sDBCB59sDCBB79sDBBB99sDBCBb9sDCBB" ++
    "d9sDBBBf9sDBCBh9sDCBBj9sDBBBl9sDBCBn9sDCBBp9sDBBBr9sDBCBt9sDCBBv9sDBBB1asDBCB3asDCBB5as" ++
    "DBBB7asDBCB9asDCCBbasDCCBdasDCBBfasDBBBhasDBBBjasDN0BBvdvD0BwBvbvDw4BBvdvD4BCBjtaDCBB5j" ++
    "vDBCBbl7DCBB5m7DBBBj67DBBB777DBBBbc7DBBB9c7DBBB7c7DBBB5c7DBBB3c7DBBBh87DBBBf87DBBBd87DB" ++
    "BBna7DBBB777DBBBtc7DBBBrc7DBBBpc7DBBBnc7DBCBlc7DCBBjc7DBBBhc7DBBBfc7DBBBdc7DBBBbc7DBBB9" ++
    "c7DBBB7c7DBBB5c7DBBB3c7DBBB1c7DBBBvb7DBBBrb7DBBBpb7DBBBnb7DBGBlb7DGBBhb7DBBBdb7DBBB9b7D" ++
    "BBB5b7DBFB1b7DFBBva7DBBBta7DBGBra7DGBBpa7DBBBja7DBCB9g7DDCB1anDCBBhvmDBBB3anDBCBhvmDCDB" ++
    "7anDDGBjvmDGBBb9nDBDBlanDDBB59nDBKBnanDNGB16nDIGB56nDIGB96nDIDBd6nDGCBrjvDCBBbjvDCBBrjv" ++
    "DBBBvjvDBBBpjfDCBBbedDBEBh5fDEBBp4dDBBB52dDi0B8BBgCgF4BBgC0GLBeCMPBeCQHBeCICBeCdPCB1b2E" ++
    "CBBp93EBBBle2EBBB3j2ECBB7e2EBBB32eBBBB7e2EBBBbe2EBCB9j2ECBBnvkDBBBbj2EBBB1j2EBBBde2EBBB" ++
    "pi2EBBBvi2EBBB5j2EBBBhf2EBBBr63EBBBjf2EBBBvi2EBBB7h2EBCBte2ECBBti2EBBBgmbDBBBt0gBBBBvi2" ++
    "EBBBcmbDBBB3h2EBBBambDBBBja3EBCBpi2ECBB7j3EBBBni2EBBB2mbDBCBli2ECBBji2EBBB5g2EBBBbg2EBB" ++
    "Bb4eBBBBdg2EBBBdi2EBBBtjdDCBB5i2EBCB3h2ECBBph2EBDBbv2EDBB2lbDBBB8mbD66BjBB0EgGWB0CgqC0B" ++
    "B0C0dV0BB0C0DZBmBmhXwB976HwKBvb6HgoBwBtp9HwwBhr9HwwB5t9HwHBpu9HISBpu9HSwBd0aHwwB12aHwCC" ++
    "l3aHDBBl3aHDBBl3aHDCBl3aHEEBl3aHFIBl3aHIEB95aHFCC95aHDGB95aHHLB95aHLwBt6aHwwBh8aHwCB5aa" ++
    "HDEB5aaHGIB5aaHJHB5aaHIwBpbaHwCBddaHDEBddaHFFBddaHGBBddaHEHBddaHIwB1faHwwBlgaHwwB9iaHww" ++
    "BtjaHwwBhlaHwwB5naHwwBpoaHwwBdqaHwwB1saHwwBltaHwwB9vaHwwBt0bHwwBh2bHwBB5naHBBBr6aHDRBdf" ++
    "9HRBB1g9HBHBdf9HHBBjbqGBRB1h9HRBBvg9HBHB1h9HHBBhdqGBBBdi9HBBB9i9HBBB7i9HBBBhh9HBBBth9HB" ++
    "BB1i9HBRB1j9HRBBlj9HBHB1j9HHBB7fqGBRBlk9HRBBjk9HBHBlk9HHBB5hqGBBB1m9HBBBtl9HBBBrl9HBBB5" ++
    "l9HBBBhl9HBBBll9HBRBlm9HRBB9n9HBHBlm9HHBBriqGBRB9o9HRBB7o9HBHB9o9HHBBpkqGBBBlp9HBBBhp9H" ++
    "BBBfp9HBBBpo9HBBB5p9HBBB9p9HBRB9q9HRBBtq9HBHB9q9HHBBfmqGBRBtr9HRBBrr9HBHBtr9HHBBdoqGBBB" ++
    "9t9HBBB5t9HBBB3t9HBBBds9HBBBps9HBBBts9HBRBtt9HRBBhu9HBHBtt9HHBB3qqGBRBhv9HRBBfv9HBHBhv9" ++
    "HHBB1sqGBBBt0aHBBBp0aHBBBn0aHBBB10aHBBBd0aHBBBh0aHBBBpu9HBBBru9HDKBrpbHKKBfqbHKKB3rbHKK" ++
    "BnrbHKKBbsbHq1CJBvvdHJDBtvdHDLBrvdHLBBnvdHBCBlvdHCBB1ssEBBB3ndHBBBbvdHBBB9vdHBBB9mdHBBB" ++
    "vpdHBBB1odHBJB12eHJCBv1eHCCBr1eHCBBp1eHBGBn1eHGCBl1eHCBBbtdHBBB31eHBBB71eHBBBl0eHBBBvrd" ++
    "HBBBl1tEBBBnrdHj4C2BB4C08BCBhtjHCBBbtjHBBB7tjHCBBprjHBBB7tjHBBBjtjHBBB1tjHBBBtrjHBEBdsj" ++
    "HEBBltjHBBBbtjHBBBtsjHBBBntjHBBBvsjHBBB3ujHBBBvtjHBCBlujHCBBhujHBBBfujHBBB5ujHBBB3ujHBB" ++
    "B1ujHBBBrqjHBBB5mjHBBBpnjHBBBvqjHCBBhvjHBBBbvjHCBBptjHDBBjvjHCBBttjHBEBdujHEBBlvjHBBBbv" ++
    "jHBBBtujHBBBnvjHBBBvujHCBBvvjHBCBl0kHCBBh0kHCBB50kHCBB10kHHBBb1kHFBBj1kHCBBtvjHCCCd0kHD" ++
    "BBl1kHBBBb1kHCBBn1kHBBBv0kHCBBv1kHDBBh2kHCBB52kHCBB12kHCBB5qjHCBBvujHCBBh3kHBBBb3kHCBBp" ++
    "1kHDBBj3kHBBB13kHBBBt1kHBCCd2kHDBBd2kHBBBl3kHBBBb3kHBBBt2kHBBBn3kHBBBv2kHCBBv3kHBCBl4kH" ++
    "CBBh4kHCBB54kHBBB34kHBBB14kHBBBr0kHCBBptjHCCBh5kHCBBb5kHBBB75kHBCBp3kHCBB75kHBBBj5kHBBB" ++
    "15kHBBBt3kHCDBd4kHDBBl5kHBBBb5kHBBBt4kHBBBn5kHBBBv4kHBBB36kHBBBv5kHBCBl6kHCBBh6kHBBBf6k" ++
    "HBBB56kHBBB36kHBBB16kHGBBh7kHBBBb7kHBBB77kHCBBp5kHBBB77kHBBBj7kHBBB17kHBBBt5kHCDBd6kHDB" ++
    "Bl7kHBBBb7kHBBBt6kHBBBn7kHBBBv6kHBBB38kHBBBv7kHBCBl8kHCBBh8kHBBBf8kHBBB58kHBBB38kHBBB18" ++
    "kHgTBBfcoHBBBjboHEwBtcoHiGBBpk0HOBB9s7GBBBjbbGBBBb4fGBBBnk0HBBBfohGBBBlfcGBBB53kFBBBrec" ++
    "GBBB7nhGBBBhv5GBBBhf0GBBB386GBBBtsfGBBB199GBBB19gGBBBt66GBBB50gGBBBtdqFBBB5guFBBBjniFBB" ++
    "B7jcGBBBnueGBBB3h1GBBB3p7GBBB5d7GBBBh2iGBBB12iGBBB1ugFBBBb4aGBBBvvhGBBBl3fGBBBfi7GBBBvb" ++
    "iFBBBrt7GBBB1bsFBBBhrrFBBBn2fGBBB9r1GBBBpi5GBBBti5GBBB9guFBBBdsfGBBB78eGBBBregFVBBhb9GB" ++
    "BB36fGvcCKBvrtH") (
    "8FC0B8YHC0B4YFC0B1YEC0B7ZEDhB42IkBBDhB42IiBBDjB42IkBiDC9D7YCC9DaDBC9DaDMCcDnFBCcDnFJCsV" ++
    "eDrDC4DuLBC4DuLBC4DuLBCcDaDBCcDaDBCcDaDBCeDaDBCeDaDBCeDaD5BC4DqDBC4DqDBC4DqD5HC0B6YBC0B" ++
    "7YBC0BaYBC0B8ZBC0B3YBC0BbYtEC0BpzKC0B1YBD0B8Y1Y2QC5bB2cBeHC7hBkjBBC8iBkjBBC7mBkjBBCaiBk" ++
    "jBrtBCdiDihD0ECdmDilD9BCblDpkDBCblD1lDqEDitDhrD0sDCDjtDhrD0sD1pDC1DuV6HC0oHpzBC1oHpzBC2" ++
    "oHpzBC3oHpzBC4oHpzBC5oHpzBC6oHpzBC7oHpzBC0oHpzBC1oHpzBC2oHpzBC3oHpzBC4oHpzBC5oHpzBC6oHp" ++
    "zBC7oHpzBC0pHpzBC1pHpzBC2pHpzBC3pHpzBC4pHpzBC5pHpzBC6pHpzBC7pHpzBC0pHpzBC1pHpzBC2pHpzBC" ++
    "3pHpzBC4pHpzBC5pHpzBC6pHpzBC7pHpzBC0rHpzBC1rHpzBC2rHpzBC3rHpzBC4rHpzBC5rHpzBC6rHpzBC7rH" ++
    "pzBC0rHpzBC1rHpzBC2rHpzBC3rHpzBC4rHpzBC5rHpzBC6rHpzBC7rHpzDCgrHpzBChzpzBCczpzDCmtHpzFCh" ++
    "zpzBC0BjYCC0BjYBC0B2wBD0B8Y2wBCkrHpzBCnzpzBCezpzDC6uHpzFCnzpzBD0BjY0YBD0BjY1YBD0BjY2wOD" ++
    "0BkY0YBD0BkY1YBD0BkY2wOD0B8Y0YBD0B8Y1YECsrHpzBC9+pzBCe+pzDCmvHpzFC9+pzBC0B1YBC0BkYZC0Bj" ++
    "ZyCi1Ii1IBDi1Ii1Ii1ICCl1Il1IBDl1Il1Il1IFC1B1BCC0B5YJCvBvBBCvB1BBC1BvBOEi1Ii1Ii1Ii1IhCCi" ++
    "DjDoCD1DfB3DBD1DfBjDCCgF3DCD3DfBfDBD3DfBlDDCgF6DNCeDfDKCjDdDBDkD5DcDBCkDdDZD6D1DoDVDhB4" ++
    "2InBBDhB42IpBBEhB42IhBgBBDhB42IjBBDiB42IjBBDhB42IlBBDiB42IlBBDjB42IlBBDkB42IlBBDhB42ImB" ++
    "BDlB42ImBBDhB42IoBBDjB42IoBBDlB42IoBBDnB42IoBBChB42ICC9D9DBD9D9D9DBC9DmDCCmD9DBDmD9D9DB" ++
    "EmD9D9D9DBC9DoDCCoD9DBDoD9D9DGC9D9DBD9D9D9DBC9DmDCCmD9DBDmD9D9DBEmD9D9D9DBC9DoDCCoD9DBD" ++
    "oD9D9DODgB42IjB3FCbhIbhIBDbhIbhIbhICCehIehIBDehIehIehIpRChBgBBChBhBBChBiBBChBjBBChBkBBC" ++
    "hBlBBChBmBBChBnBBChBoBBChBpBBCiBgBBD8BhB9BBD8BiB9BBD8BjB9BBD8BkB9BBD8BlB9BBD8BmB9BBD8Bn" ++
    "B9BBD8BoB9BBD8BpB9BBE8BhBgB9BBE8BhBhB9BBE8BhBiB9BBE8BhBjB9BBE8BhBkB9BBE8BhBlB9BBE8BhBmB" ++
    "9BBE8BhBnB9BBE8BhBoB9BBE8BhBpB9BBE8BiBgB9BVD8B1D9BBD8B2D9BBD8B3D9BBD8B4D9BBD8B5D9BBD8B6" ++
    "D9BBD8B7D9BBD8B8D9BBD8B9D9BBD8BaD9BBD8BbD9BBD8BcD9BBD8BdD9BBD8BeD9BBD8BfD9BBD8BgD9BBD8B" ++
    "hD9BBD8BiD9BBD8BjD9BBD8BkD9BBD8BlD9BBD8BmD9BBD8BnD9BBD8BoD9BBD8BpD9BBD8BqD9BnaBEbhIbhIb" ++
    "hIbhI8DDqBqBtBBCtBtBBDtBtBtB5hBC0Bp4MBC0Bq4MDC84Ma4M0DCj5M86M1ID8B08E9BBD8B28E9BBD8B38E" ++
    "9BBD8B58E9BBD8B68E9BBD8B78E9BBD8B98E9BBD8Bb8E9BBD8Bc8E9BBD8Be8E9BBD8Bf8E9BBD8Bg8E9BBD8B" ++
    "h8E9BBD8Bi8E9BBD8B00bB9BBD8Bo4cB9BBD8B4ncB9BBD8BsrdB9BBD8B8eeB9BBD8Bk0fB9BBD8Bc5gB9BBD8" ++
    "B4ahB9BBD8BgshB9BBD8B81jB9BBD8BkjjB9BBD8B06kB9BBD8BcokB9BBD8BoalB9BBD8Bs7iB9BBE8B4hhB40" ++
    "iB9BBE8B4hhB4mlB9BCD8B0gT9BBD8BckT9BBD8B9gT9BBD8BrmV9BBD8BkkT9BBD8BdbU9BBD8B3gT9BBD8Bbb" ++
    "U9BBD8BtiT9BBD8B1qU9BBD8B8oZ9BBD8Bb3y9BBD8Bk1x9BBD8B8pZ9BBD8Bhe4B9BBD8BvoV9BBD8B5fZ9BBD" ++
    "8Ba1w9BBD8B9oZ9BBD8Bu9+9BBD8Bd0V9BBD8Bpjy9BBD8B153B9BBD8Bta+9BBD8BklU9BBD8B3nT9BBD8Bs3V" ++
    "9BBD8B6rW9BBD8B3nz9BBD8B1oT9BBD8B763B9BBD8BkqU9BBD8Bdb+9BBD8BhoT9BBD8Baf0B9BBD8Bjf0B9BN" ++
    "DgDkD5DBCiBhBBCiBiBBCiBjBBCiBkBBCiBlBBCiBmBBCiBnBBCiBoBBCiBpBBCjBgBBCjBhBBCjBiBBCjBjBBC" ++
    "jBkBBCjBlBzCo1jB07bBBCs7iBoqhBkBCjBmBBCjBnBBCjBoBBCjBpBBCkBgBBCkBhBBCkBiBBCkBjBBCkBkBBC" ++
    "kBlBBCkBmBBCkBnBBCkBoBBCkBpBBClBgBBChB8oZBCiB8oZBCjB8oZBCkB8oZBClB8oZBCmB8oZBCnB8oZBCoB" ++
    "8oZBCpB8oZBDhBgB8oZBDhBhB8oZBDhBiB8oZBC8D7DBD5DiD7DBC5DmDBDcDkD4DgBC4nTc4VBE25Mh6Ms7M86" ++
    "MBE25Mb7Ml6M15MBE25Mj7Mq6M25MBD25Ms7Mb7MBE45Mb6Mj7Mg5MBD45Mj7M16MBD65M95Mj7MBF85Mp5Mf5M" ++
    "s7M96MBE85Ms7Mb5Ms7MBDa5Mj7Mp5MBDa5Ms7M07MBDb5M45Ma7MBEb5M97M36M86MBEb5Md7Ma7Ms7MBDc5Md" ++
    "7Mj7MBDc5Mj7Mu6MBCe5Mc5MBDe5Mb6Ms7MBEd5M57Ma7Ms7MBEe5Mb7M06Ms7MBCd5Md7MBFd5Md7Mg5M97M07" ++
    "MBGd5Md7M17Ms7M86Mb7MBFd5Md7Mf7M36M86MBDg5M97M07MBFg5M97M07M86Mj7MBFf5Mb7Ms5M45Md7MBEf5" ++
    "Md7Ms7Md6MBDh5Ms7Mp5MBDj5Mb7Ma6MBDj5Ms7Mt6MBEl5M45Mf5Mb7MBFl5Mj7M16Ms7M07MBEn5Ma7Mj7Mg5" ++
    "MBDr5Mj7M16MBDr5Mj7M86MBD06Ms7Mp5MBC76Mn5MBC96Mb7MBC86Mj7MBCa6Me6MBDe6M36M86MBDf6M45M46" ++
    "MBFh6Ms7Mr5Mj7M86MBDh6Ms7M46MBEg6Ms7Mc7Mb7MBFk6M25Mp5M86Mb7MBDk6Mf5Mb7MBCk6Mj5MBCj6Mb7M" ++
    "BFl6M15M97M36M96MBEl6M35Ms7M86MBFm6M36Mn5M75Mb7MBDl6M97Mj7MBFo6Mf5Mv5Ms7Mb7MBCq6Mt5MBDq" ++
    "6Mb6Mi6MBDo6Mb7M46MBDq6Mj7Mp5MBDq6Ms7Mo5MBDp6Ms7Mv5MBEt6M45Mj7M86MBDs6Mb7M86MBCr6Mj7MBD" ++
    "t6Mj7M96MBDr6Ms7Mb7MBDr6Ms7Mj7MBEu6M45Mf5Md7MBDu6M45Mb7MBDu6M36Mf6MBDu6Mb7Mf5MBFu6Mj7Mn" ++
    "5M77Mj7MBEv6Mf5Md7Mj7MBCv6Ma7MBFv6Ma7Mg6Ms7Mb7MBC17Mc5MBE17Mc5M86Mj7MBE17Ms7M86Mb7MBD47" ++
    "Ms7M96MBD47Ms7Mb7MBD67M25Mj7MBEa7M36M86Mb7MBCa7M97MBDb7Mk6Ms7MBEb7Ms7Mm6Mb7MBCc7M07MBFc" ++
    "7Mj7M86Mi5Mj7MBDf7M36M86MBCgBp5yBChBp5yBCiBp5yBCjBp5yBCkBp5yBClBp5yBCmBp5yBCnBp5yBCoBp5" ++
    "yBCpBp5yBDhBgBp5yBDhBhBp5yBDhBiBp5yBDhBjBp5yBDhBkBp5yBDhBlBp5yBDhBmBp5yBDhBnBp5yBDhBoBp" ++
    "5yBDhBpBp5yBDiBgBp5yBDiBhBp5yBDiBiBp5yBDiBjBp5yBDiBkBp5yBD8DgD1DBC4D1DBC1DlDBD2D1DiDBCf" ++
    "DmDBCgD3DBC4DdDBD4DdDiBBD4DdDjBBC9DlDBCjjXggYBCdhZc4VBC79W3rwBCegZr5xBEa1wfoXqoTu9+BCgD" ++
    "1DBCeD1DBCsz1DBCdD1DBCbD1DBCbD2DBCdD2DBC7D2DBD3D1DcDBEbD3D1DcDBCgD6DBCeD6DBCsz6DBCsz7DB" ++
    "CdD7DBCbD7DBC8DqDBDbD8DqDBDdD8DqDBD7D8DqDBDkD8DqDBCszcDBCdDcDBC4DcDBCbDcDBC6DdDBCeDdDBC" ++
    "szdDBCdDdDBC3DdDBCbDdDBDdDdDiBBD3DdDiBBCdDiBBDbDdDiBBDdDdDjBBD3DdDjBBCdDjBBDbDdDjBBDdDl" ++
    "gIjDBEdDlgIjDiBBCgD1DBDbDgD1DBDdDgD1DBD7DgD1DBDiD1D4DBFiD1D4DlgIjDBGiD1D4DlgIjDiBBCgDjD" ++
    "BCeDjDBCszjDBCdDjDBCgDmDBCeDmDBCszmDBCdDmDBCbDmDBCdDmDBCgDnDBCeDnDBCsznDBCdDnDBCbDnDBCd" ++
    "DnDBCbD9+BCdD9+CC2DhDBC3D3DBC3D4DBE3DlgIbD7DCC4D2DBC7DpDBC8D1DBC8DgDBC9DeDBCbDbDBCbDdDB" ++
    "CbDkDBCcDdDBCcDeDBDcDfD7DBCcDoDBCdD2DBDdD9DcDBDdDfDcDBCgD8DCDgDgDdDBCgDiDBCjDiDBCjDmDBC" ++
    "nD2DBDmDlgIdDBD1DlgIdDBChB5fZBCiB5fZBCjB5fZBCkB5fZBClB5fZBCmB5fZBCnB5fZBCoB5fZBCpB5fZBD" ++
    "hBgB5fZBDhBhB5fZBDhBiB5fZBDhBjB5fZBDhBkB5fZBDhBlB5fZBDhBmB5fZBDhBnB5fZBDhBoB5fZBDhBpB5f" ++
    "ZBDiBgB5fZBDiBhB5fZBDiBiB5fZBDiBjB5fZBDiBkB5fZBDiBlB5fZBDiBmB5fZBDiBnB5fZBDiBoB5fZBDiBp" ++
    "B5fZBDjBgB5fZBDjBhB5fZBD7D1DcD1ohBC6D6DBC6D9DBC6DcDBD6D6D9DBD6D6DcDBCjDkDBCjDkDNCkbBmbB" ++
    "BCkbB5bBBCkbBbbBBCubBmbBBCkbBdbBoBCgeBseBeEC7mBkjBNC6hB7hBBC6hB7hBBC6hBlmBBC6hBlmBBC6hB" ++
    "8iBBC6hB8iBBC6hB7mBBC6hB7mBBC6hB6mBBC6hB6mBBC6hB8mBBC6hB8mBBC6hBgmBBC6hBgmBBC6hBgmBBC6h" ++
    "B9iBBC6hB9iBBC6hB9iBFC6hBchBBC6hBdhBBC6hB5iBBC6hB9iBBC6hBaiBBC8hBchBBC8hBdhBBC8hBehBBC8" ++
    "hB5iBBC8hB9iBBC8hBaiBBCahBchBBCahBdhBBCahBehBBCahB5iBBCahB9iBBCahBaiBBCbhBchBBCbhB5iBBC" ++
    "bhB9iBBCbhBaiBBCchBdhBBCchB5iBBCdhBchBBCdhB5iBBCehBchBBCehBdhBBCehB5iBBCjhBchBBCjhBdhBB" ++
    "CjhBehBBCjhB5iBBClhBdhBBClhB5iBBCmhBchBBCmhBdhBBCmhBehBBCmhB5iBBCnhBdhBBCnhB5iBBCohB5iB" ++
    "BCphBchBBCphB5iBBCqhBchBBCqhB5iBBC1iBchBBC1iBdhBBC1iBehBBC1iB5iBBC1iB9iBBC1iBaiBBC2iBdh" ++
    "BBC2iB5iBBC2iB9iBBC2iBaiBBC3iB7hBBC3iBchBBC3iBdhBBC3iBehBBC3iB4iBBC3iB5iBBC3iB9iBBC3iBa" ++
    "iBBC4iBchBBC4iBdhBBC4iBehBBC4iB5iBBC4iB9iBBC4iBaiBBC5iBchBBC5iBdhBBC5iBehBBC5iB5iBBC5iB" ++
    "9iBBC5iBaiBBC6iBchBBC6iBdhBBC6iBehBBC6iB5iBBC6iB9iBBC6iBaiBBC7iBchBBC7iB5iBBC7iB9iBBC7i" ++
    "BaiBBCaiBchBBCaiBdhBBCaiBehBBCaiB5iBBCaiB9iBBCaiBaiBBCghBgjBBChhBgjBBC9iBgjBBD0BciBhiBB" ++
    "D0BdiBhiBBD0BeiBhiBBD0BfiBhiBBD0BgiBhiBBD0BhiBgjBBC6hBhhBBC6hBihBBC6hB5iBBC6hB6iBBC6hB9" ++
    "iBBC6hBaiBBC8hBhhBBC8hBihBBC8hB5iBBC8hB6iBBC8hB9iBBC8hBaiBBCahBhhBBCahBihBBCahB5iBBCahB" ++
    "6iBBCahB9iBBCahBaiBBCbhBhhBBCbhBihBBCbhB5iBBCbhB6iBBCbhB9iBBCbhBaiBBC1iB9iBBC1iBaiBBC2i" ++
    "B9iBBC2iBaiBBC3iB7hBBC3iB4iBBC3iB5iBBC3iB9iBBC3iBaiBBC4iB5iBBC4iB9iBBC4iBaiBBC5iB7hBBC5" ++
    "iB5iBBC6iBhhBBC6iBihBBC6iB5iBBC6iB6iBBC6iB9iBBC6iBaiBBC9iBgjBBCaiBhhBBCaiBihBBCaiB5iBBC" ++
    "aiB6iBBCaiB9iBBCaiBaiBBC6hBchBBC6hBdhBBC6hBehBBC6hB5iBBC6hB7iBBC8hBchBBC8hBdhBBC8hBehBB" ++
    "C8hB5iBBC8hB7iBBCahBchBBCahBdhBBCahBehBBCahB5iBBCahB7iBBCbhB5iBBCchBdhBBCchB5iBBCdhBchB" ++
    "BCdhB5iBBCehBchBBCehB5iBBCjhBchBBCjhBdhBBCjhBehBBCjhB5iBBClhBdhBBClhBehBBClhB5iBBCmhBch" ++
    "BBCmhBdhBBCmhBehBBCmhB5iBBCnhBdhBBCohB5iBBCphBchBBCphB5iBBCqhBchBBCqhB5iBBC1iBchBBC1iBd" ++
    "hBBC1iBehBBC1iB5iBBC2iBdhBBC2iB5iBBC3iBchBBC3iBdhBBC3iBehBBC3iB4iBBC3iB5iBBC4iBchBBC4iB" ++
    "dhBBC4iBehBBC4iB5iBBC4iB7iBBC5iBchBBC5iBdhBBC5iBehBBC5iB5iBBC6iBchBBC6iBdhBBC6iBehBBC6i" ++
    "B5iBBC6iB7iBBC7iBchBBC7iB5iBBC7iBgjBBCaiBchBBCaiBdhBBCaiBehBBCaiB5iBBCaiB7iBBC6hB5iBBC6" ++
    "hB7iBBC8hB5iBBC8hB7iBBCahB5iBBCahB7iBBCbhB5iBBCbhB7iBBCjhB5iBBCjhB7iBBCkhB5iBBCkhB7iBBC" ++
    "3iB4iBBC3iB5iBBC4iB5iBBC6iB5iBBC6iB7iBBCaiB5iBBCaiB7iBBD0iBeiBhiBBD0iBfiBhiBBD0iBgiBhiB" ++
    "BCnhB9iBBCnhBaiBBCphB9iBBCphBaiBBCqhB9iBBCqhBaiBBCjhB9iBBCjhBaiBBCkhB9iBBCkhBaiBBCdhB9i" ++
    "BBCdhBaiBBCchB9iBBCchBaiBBCehB9iBBCehBaiBBClhB9iBBClhBaiBBCmhB9iBBCmhBaiBBCkhBchBBCkhBd" ++
    "hBBCkhBehBBCkhB5iBBCkhBhhBBCjhBhhBBClhBhhBBCmhBhhBBCnhB9iBBCnhBaiBBCphB9iBBCphBaiBBCqhB" ++
    "9iBBCqhBaiBBCjhB9iBBCjhBaiBBCkhB9iBBCkhBaiBBCdhB9iBBCdhBaiBBCchB9iBBCchBaiBBCehB9iBBCeh" ++
    "BaiBBClhB9iBBClhBaiBBCmhB9iBBCmhBaiBBCkhBchBBCkhBdhBBCkhBehBBCkhB5iBBCkhBhhBBCjhBhhBBCl" ++
    "hBhhBBCmhBhhBBCkhBchBBCkhBdhBBCkhBehBBCkhB5iBBCjhB7iBBCkhB7iBBCnhB5iBBCjhBchBBCjhBdhBBC" ++
    "jhBehBBCkhBchBBCkhBdhBBCkhBehBBCnhB5iBBCohB5iBBC7hBbiBBC7hBbiBTDahBchB5iBBDahBdhBchBBDa" ++
    "hBdhBchBBDahBdhB5iBBDahBehB5iBBDahB5iBchBBDahB5iBdhBBDahB5iBehBBDchB5iBdhBBDchB5iBdhBBD" ++
    "dhB5iBaiBBDdhB5iB9iBBDjhBdhBchBBDjhBchBdhBBDjhBchB9iBBDjhB5iBdhBBDjhB5iBdhBBDjhB5iBchBB" ++
    "DjhB5iB5iBBDjhB5iB5iBBDlhBdhBdhBBDlhBdhBdhBBDlhB5iB5iBBDkhBdhB5iBBDkhBdhB5iBBDkhBchBaiB" ++
    "BDkhB5iBehBBDkhB5iBehBBDkhB5iB5iBBDkhB5iB5iBBDmhBdhB9iBBDmhBehB5iBBDmhBehB5iBBDnhB5iBdh" ++
    "BBDnhB5iBdhBBDnhB5iB5iBBDnhB5iBaiBBDphBchB5iBBDphB5iB5iBBDphB5iB5iBBDphB5iB9iBBDqhB5iB5" ++
    "iBBDqhB5iBaiBBDqhB5iB9iBBD1iBehB5iBBD1iBehB5iBBD2iB5iBdhBBD2iB5iB5iBBD4iBdhB5iBBD4iBdhB" ++
    "aiBBD4iBdhB9iBBD4iBchBchBBD4iBchBchBBD4iBehB5iBBD4iBehB5iBBD4iB5iBdhBBD4iB5iBdhBBD5iBdh" ++
    "BchBBD5iBdhB5iBBD5iBdhBaiBBD5iBchBdhBBD5iBchB5iBBD5iBehBchBBD5iBehB5iBDD5iBchBehBBD7iB5" ++
    "iBchBBD7iB5iB5iBBD6iBdhB5iBBD6iBdhB9iBBD6iBchB5iBBD6iBchB5iBBD6iBchB9iBBD6iB5iBaiBBD6iB" ++
    "5iB9iBBDaiB5iB5iBBDaiB5iB5iBBD8hBehBaiBBDahBchBaiBBDahBchB9iBBDahBehBaiBBDahBehB9iBBDah" ++
    "B5iBaiBBDahB5iB9iBBDchB5iBaiBBDchBdhB9iBBDchB5iB9iBBDjhBehB9iBBDlhBdhBaiBBDkhBdhBaiBBDm" ++
    "hBdhBaiBBD4iBchBaiBBD4iB5iBaiBBDaiBdhBaiBBDaiBchBaiBBDaiB5iBaiBBD5iB5iBaiBBD2iB5iBaiBBD" ++
    "6iBdhBaiBBD2iB5iBdhBBD4iBdhB5iBBDphB5iBaiBBD3iB5iBaiBBD6iBchBdhBBD5iBehBaiBBD4iBchB5iBB" ++
    "D3iB5iB5iBBD4iBchB5iBBD6iBchBdhBBDchBdhBaiBBDdhBchBaiBBD5iBchBaiBBD1iB5iBaiBBD8hBdhBaiB" ++
    "BD3iB5iB5iBBDphBchB5iBBDlhB5iB5iBBDjhBehBaiBBD6iBchBaiB9BDlhB4iBimBBD2iB4iBimBBE7hB4iB4" ++
    "iB7iBBE7hB3iB8hBhhBBE5iBdhB5iBfhBBElhB4iBphB5iBBEhhBjhB8iB4iBBEphB4iBaiB7iBBE8iBjhB4iB5" ++
    "iBBDlhB4iB9iBBSlhB4iB9iB0B7hB4iB4iB7iB0BphB4iBaiB7iB0B8iBjhB4iB5iBBIchB4iB0BchB4iB7hB4i" ++
    "B7iBBEhhBcmB7hB4iBdCC0B5YBC0B5YBC0B5YBC0B5Y4BC0BbiBBC0iBbiBBC0BciBCC0BdiBCC0BeiBBC0iBei" ++
    "BBC0BfiBBC0iBfiBBC0BgiBBC0iBgiBBC0BhiBBC0iBhiBBC0BiiBBC0iBiiBmDC4iB2hBBC4iB2hBBC4iB3hBB" ++
    "C4iB3hBBC4iB5hBBC4iB5hBBC4iB7hBBC4iB7hB7HC0B4Yu8sBCgBcBBChBcBBCiBcBBCjBcBBCkBcBBClBcBBC" ++
    "mBcBBCnBcBBCoBcBBCpBcBGD8B1D9BBD8B2D9BBD8B3D9BBD8B4D9BBD8B5D9BBD8B6D9BBD8B7D9BBD8B8D9BB" ++
    "D8B9D9BBD8BaD9BBD8BbD9BBD8BcD9BBD8BdD9BBD8BeD9BBD8BfD9BBD8BgD9BBD8BhD9BBD8BiD9BBD8BjD9B" ++
    "BD8BkD9BBD8BlD9BBD8BmD9BBD8BnD9BBD8BoD9BBD8BpD9BBD8BqD9BBDk0MjDl0MDC3D4DBCnDqDyC8DmDBCd" ++
    "DmDBCjD4DBCjDjDBDgDgDmDBCnD3DxCdD3DBCdD4DBCdDiD4BC4DaDgDCr3Mb2MBCj5Mj5MvBDk0McpZl0MBDk0" ++
    "M9gTl0MBDk0MckTl0MBDk0M9sWl0MBDk0Mp5yl0MBDk0MjiYl0MBDk0Mnmzl0MBDk0MtmUl0MBDk0MnaZl0M")

/-- What a character of a domain name becomes, nothing if it may not occur. -/
def domainImage? (c : Char) : Option (List Char) :=
  if c.toNat < 128 then some [c.toLower]
  else if droppedInDomain.contains c then some []
  else if refusedInDomain.contains c then none
  else some ((replacedInDomain.image? c).getD [c])

end EventRules.Network
