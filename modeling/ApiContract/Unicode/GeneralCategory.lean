import ApiContract.Unicode.CodePointSet

/-!
General categories: every code point but a surrogate has exactly one of them. Names stand in lower
case and without separators.
-/

namespace ApiContract.Unicode

/-- The categories, each with its names. -/
def generalCategories : List NamedSet := [
  ⟨["lu", "uppercaseletter"],
    ["cNbAdXXBHbHBBBBBBBBBBBBBBBBBBBBBBBBBBBBBBBBBBBBBBBBBBBBBBBBBBBBBBBCBBBBBBBBBBBBBBBCBBBBBBBBB",
     "BBBBBBBBBBBBBBBBBBBBBBBBBBBBBBBBBBBBBCBBBBDCBBBCBDCEBCBDDCBCBBBBBCBBCBBCBDBBBCDBHBCBCBCBBBBB",
     "BBBBBBBBBBCBBBBBBBBBBBBBBBBBCBCBBDBBBBBBBBBBBBBBBBBBBBBBBBBBBBBBBBBBBBBBBBBBBBBBBBBBBBBBBBBB",
     "HCBCCBBEBBBBBBBBlDBBBDBIBGBBDBBBCBRBJbJBCDDBBBBBBBBBBBBBBBBBBBBBBBFBCBBCCbZbWBBBBBBBBBBBBBBB",
     "BBBBBBBBBBBBBBBBBBJBBBBBBBBBBBBBBBBBBBBBBBBBBBBBBBBBBBBBBBBBBBBBBBBBBBBBBCBBBBBBBBBBBBCBBBBB",
     "BBBBBBBBBBBBBBBBBBBBBBBBBBBBBBBBBBBBBBBBBBBBBBBBBBBBBBBBBBBBBBBBBBBBBBBBBBBBBBBBBBBBBBBBBBCb",
     "MehDbMBBFBbbUdIdgLBGbRCDmIBBBBBBBBBBBBBBBBBBBBBBBBBBBBBBBBBBBBBBBBBBBBBBBBBBBBBBBBBBBBBBBBBB",
     "BBBBBBBBBBBBBBBBBBBBBBBBBBBBBBBBBBBBBBBBBBBBBBBBBBBBBBBBBBBBBBBBBBBBBBBBBBBBBBBBBBBJBBBBBBBB",
     "BBBBBBBBBBBBBBBBBBBBBBBBBBBBBBBBBBBBBBBBBBBBBBBBBBBBBBBBBBBBBBBBBBBBBBBBBBBBBBBBBBBBBBBBBJII",
     "GKIIIIGLBBBBBBBIIcUEMEMEMFLEkCBEBDDCDCBDFGBBBBBBECEKCFBcJBdzGbWbWBBDCBBBBBBEBBCBIDBBBBBBBBBB",
     "BBBBBBBBBBBBBBBBBBBBBBBBBBBBBBBBBBBBBBBBBBBBBBBBBBBBBBBBBBBBBBBBBBBBBBBBBBBBBBBBBBBBBBBBIBBB",
     "EBbtyJBBBBBBBBBBBBBBBBBBBBBBBBBBBBBBBBBBBBBBBBBBBBBTBBBBBBBBBBBBBBBBBBBBBBBBBBBfFBBBBBBBBBBB",
     "BBDBBBBBBBBBBBBBBBBBBBBBBBBBBBBBBBBBBBBBBBBBBBBBBBBBBBBBBBBBBBBBKBBBBCBBBBBBBBEBBBCBBBDBBBBB",
     "BBBBBBBBBBBBBBBFBFBBBBBBBBBBBBBBBEBBBCDBFBBBBBBBYBbhaHbAbuZbOfGbKgALBPBHBCcqCbZgBWegObGbgjWb",
     "GbmmQbAbAbAbAbAbABBCCBCCCEBIbAbAbACBECIBHbBCBEBFBBDHbBbAbAbAbAbAbAbAbAbAbAbAbEZbHZbHZbHZbHZb",
     "HBgnLbI"]⟩,
  ⟨["ll", "lowercaseletter"],
    ["dTbAcGBbPYBIBBBBBBBBBBBBBBBBBBBBBBBBBBBBBBBBBBBBBBBBBBBBBBBBBBBBBBBCBBBBBBBBBBBBBBBCBBBBBBBB",
     "BBBBBBBBBBBBBBBBBBBBBBBBBBBBBBBBBBBBBBCBBBBDCBBBCBDCEBCBDDCBCBBBBBCBBCBBCBDBBBCCCDGBCBCBBBBB",
     "BBBBBBBBBBBCBBBBBBBBBBBBBBBBBCCBBBDBBBBBBBBBBBBBBBBBBBBBBBBBBBBBBBBBBBBBBBBBBBBBBBBBBBBBBBBB",
     "BHCBCCBBEBBBBBBBBcRBbBhLBBBDBDDSBbBbJBCDDBBBBBBBBBBBBBBBBBBBBBBBFBBCBCCbZbWBBBBBBBBBBBBBBBBB",
     "BBBBBBBBBBBBBBBBBJBBBBBBBBBBBBBBBBBBBBBBBBBBBBBBBBBBBBBBBBBBBBBBBBBBBBBCBBBBBBBBBBBBCBBBBBBB",
     "BBBBBBBBBBBBBBBBBBBBBBBBBBBBBBBBBBBBBBBBBBBBBBBBBBBBBBBBBBBBBBBBBBBBBBBBBBBBBBBBBBBBBBBBBbWb",
     "PehBbRCDbdGGdfUJBBeNbScLNBbIdYBBBBBBBBBBBBBBBBBBBBBBBBBBBBBBBBBBBBBBBBBBBBBBBBBBBBBBBBBBBBBB",
     "BBBBBBBBBBBBBBBBBBBBBBBBBBBBBBBBBBBBBBBBBBBBBBBBBBBBBBBBBBBBBBBBBBBBBBBBBBBBBBBBBBBBBBJBBBBB",
     "BBBBBBBBBBBBBBBBBBBBBBBBBBBBBBBBBBBBBBBBBBBBBBBBBBBBBBBBBBBBBBBBBBBBBBBBBBBBBBBBBBBBBBBBBBBB",
     "JIGKIIIIGKIIIIOCIIIIIIFBCGBDDBCIECCIIKDBCkOBDCDBbBBEBEBCCIEEBcBBebBbWBBDCBBBBBBEBBCBGFBBBBBB",
     "BBBBBBBBBBBBBBBBBBBBBBBBBBBBBBBBBBBBBBBBBBBBBBBBBBBBBBBBBBBBBBBBBBBBBBBBBBBBBBBBBBBBBBBBBBBB",
     "CHBBBEBMbMBBFBbtwDBBBBBBBBBBBBBBBBBBBBBBBBBBBBBBBBBBBBBBBBBBBBBTBBBBBBBBBBBBBBBBBBBBBBBBBBBf",
     "FBBBBBBBBBBBBDBBBBBBBBBBBBBBBBBBBBBBBBBBBBBBBBBBBBBBBBBBBBBBBBBBBBBBBBBBBBBBBIBBBBCBBBBBBBBB",
     "EBBBCBBDBBBBBBBBBBBBBBBBBBBBFBFBBBBBBBBBBBBBBBEBBBCBDBBBBBBBBBBBbABDBbfPbRFJHdCbeaIHMFboZbAb",
     "vHbOfGbKfZLBPBHBCcrBbZeVWegObGbgjWbGbmmKbAbAHBSbAbAbAEBBBHBLbAbAbAbAbAbAbAbAbAbAbAbAbAbAbAbA",
     "bAbCbCZBGbAZBGbAZBGbAZBGbAZBGBBcsYKBUGGduDbI"]⟩,
  ⟨["lt", "titlecaseletter"],
    ["rLBCBCBbMBlfHIIIIIMBPBbVB"]⟩,
  ⟨["lm", "modifierletter"],
    ["baMSEMOFHBBBfDBFBsKBiWBgICkJCEBbFBJBDBgEBgLBbvOBeXBvTBcpMBeDBxNBrWGgScLNBbIbLbaNBNBQNemXCjHB",
     "hJBsBBbRFFBdTCdPDbqbUBbwCGkKBeKBbCCeRJdCBXBeBDDCsBBWBfHBeEBVCdZEJBbfvIBbTCczOGBbQBJccXBbGBbj",
     "nSEtODbOCvENcMCBBygQEBHBCsgNcKhTHbkFBbrBB"]⟩,
  ⟨["lo", "otherletter"],
    ["gOBPBjWBEEiABbfVbBEEbTbGBKbJCBdVBBYCKDCBQBBbEbDdLLBYbHVWbQZHLFYBGRbPcHcCDBSBHKQPEICCCWBHBBDE",
     "DBQBNCBDOCKBIGECCWBHBCBCBCbFEBBTDQJBDBWBHBCBFDBSBPCXBLICCCWBHBCBFDBbECBDPBRBBGDDBEDCBBBCDCDD",
     "DMWBcAIBDBXBQDBbADCBCCbEBEIBDBXBKBFDBbFCBCPCRJBDBbPCBQBFDIDYGFSDYBJBBCHcGbWBCMGcHCBBBFBYBBBK",
     "BCJBCFXEbGBcLIBbKbBFeLbRUBQGEEDBDCHDENMBeJmRBECHBBBECbPBECbHBECHBBBECPBcFBECcPbLQeJxWCRBbAFc",
     "XGIHSNTOSONBDPcAbOBcPbJBcBHFCbIBBFcSKbFbXbECFLbSEbAcCXJcBgUbVRIcCbENCKbSbAbKbPDKbEeJEBGBCDBb",
     "pQEenVcEYXJHBHBHBHBHBHBHBHvFBcBBEdIIBBdMEBFbRBdQRbGbWQtSjtOcMbfcFBbrZcPbOIkIEQKCcOBbXcSgNBdZ",
     "BDHBDBEBXbDcAObYcKGDBBCLbCKXZbDHbVbTFCJKFBbPXDBIUQBGDBDbYBBDCCFCBBBYCDLHBOGCGCGJHBHfPbJbDqnS",
     "MXEbXmnCoCCeCcPBBKBNBFBBBCBCBeEbHnZScMCcCbOMeMFBfFeBKBbTCbFDGCGCGCDbJMBbABTBCBPCObIeToZbDDbX",
     "bVbGNUBIGbMKbECbKEIeYdAdUbOIcAdOcAMlZJWKIfWGCBBbSBCDBCXKXJbFcNTBCKWKbAcScEGCcMBPEBDBbDbQbDDb",
     "DbJIBbCbBcCKWKTNSeGcVhBbKbMEBBlSbQGCQDcHbDKBIWbQSbUVbBXMcBcFCCBNbTbGZbAbKbDBCBIbJDBMbWOEVBBB",
     "bJSBZTCcLHBBBEBPBKHbVbMICCCWBHBCBFDBSBMFbEKBBCBBbMBBZBBBbScBSEUDbEbWUCBBhCbVbPEbKbWUBcHbRNBc",
     "TbBbLHhDbSiDICBCIBCBYPBBBdQICbNQBBBbCBKbOHBVBLbUTBScVhRbHbFJBbLRBbXbEeIHBCBbMVBZGBCBbGOBmPTP",
     "BBNBbIeUBdBbjMiWhOdxKdTPbpGRGZfxRFwLkdDbEcpUvXHbFRdBRbESbWbZVFTqTbOpPcXFBgTjcAIbvQbPKngHlFPB",
     "bDDCBOEIpGdkUeDFNDJHKnbCBtHbTbHBmJbESbSsQbBiVbECBtBHBEBCBPBhPbzNEBbBBCBBCBBKBEBBBBGBEBBBBBBD",
     "BCBBCBBBBBBBBBBCBBCEBHBEBEBBBKBRFDBFBRgoAclfCbGgdUGiOCinQOlbLPxYdqWuWcfYhhZFgfG"]⟩,
  ⟨["mn", "nonspacingmark"],
    ["bdOeIkPFkFbTBBBCBCBBcULbWVQBdXHCGCCBEbJBbEbBdNLcGJJBYEBJBDBFbRDcHJbQYBbGcDBBBEIEBDHKCbDBcGBE",
     "EIBUCbABCCcFBECECCDDBbECDBLCcFBEFBCEBUCWGBBcGBCBBEIBHCLCbEBcJBMBbYBDBcDBBDFDBEHCLCbDBcGBCBGB",
     "FCUCbCCcFCEEIBUCbDBcUBHDBBdMBCHMIdUBCJLHcVCbBBBBBBcDOBFBCFLBbKJBdYEBGBCCCZCEDQENBCCGBPBbbBDb",
     "kKDbDCbECbECcMCBHIBCLJBbTDBBeNCbIBeODECJBGDiLCCBcGBBHBBBBCIGKCBbWOBQbXEbWBBFBBFBbOJMCbGECCBD",
     "cEBBCDBBDcGICCfWDBNBHEBGBDChQcMbbSNEBDMeoCDfLBdSbGvIEeDCbsqEBEKbGCdCCkMBDBEBZCFBfVCbASNBbMIZ",
     "LbUDbWBCECCbNBcPGCCCCMBIBbVBbZBBDCCFCBBbQCIBjEBCBEBbdzSBbcJQQQblLBiSBfTFcmGDBCFEbODEBgJCwBEc",
     "NFmFCdBEcSLbXEeTBcCPbPBCCKDbXECCHBcJDbKFBIcKBMCcAJKECBdRDCBBCGBCBgBBDIVCcFCDBbLHDFcSGNBBBBBO",
     "CdHICDBBXBdGGBBECBCjEEGCBCbBCdHICBBCeCBBBCGBBdXBBBCEBFjZJBCjWCBBEBfOECCEBbGKbOGCEIBJGCDbUNBC",
     "pQHBGBBdEWCHBCBCeSGDBBCBHBBcUCDBBBnJCLCcAFFBBBXBhxTBGPqyYMDDdsAFcHHboIBcLEdDBbdbKCgyZbUCXuYD",
     "RICHbEEfSDcyDcDEbYIBOBWFBPcaIHBRCHBCBFdWBgEHoLBcJEtOEjUCbcIHeFHbtciVjG"]⟩,
  ⟨["mc", "spacingmark"],
    ["dkTBcDBCDIEBCbYCcGDGCCCKBbRBcGDcOBcGDIBBCcBCcGBBBGCCCKBdYCBCDDBDKBbPDcJEcJCcGBBFCCBCJCbCBOCc",
     "GDFDBDKBbQCcXDGISCmSCcLBgPCEBGBCCZCKDCHVCCGCBKDclSBbEBeZBHIBCnIECDECBGiQCcGBBBJBBCIGfPBbWBFB",
     "BFBCcJBbEBECCBcIBCDBBDCbWIICgPBVBhhECbtlBCCBdKCbYQfMCbVBbWCECCDeGCCCYBbTBBBeFBCCFBjDCBCBCBBb",
     "lxJBBBeXBbTDECeLBYCcHBbWDJCNBdPDDCBBgODbFCcGCBECCCDJBKCdGDHBCBBEBCBBdXDICDBeCDGBBECBjDDGECBe",
     "JDICBBeFBBCGBdZBBCEBkBDJBjNGBCEBCBBBfMDIEEBdGBbDCcKBpRBOBeCBHBCBiFFECBBnMCMBbWCICBByyYDfjGcD",
     "eACbkxNCGG"]⟩,
  ⟨["me", "enclosingmark"],
    ["bsQCikQBciGEBDbyoXD"]⟩,
  ⟨["nd", "decimalnumber", "digit"],
    ["bWKciOKfEKhQKpWKeOKeOKeOKeOKeOKeOKeOKeOKeOKdSKeOKcSKkSKcSKctQKbMKlOKeYKgKKGKhAKdIKfEKGKcaeOK",
     "baCKbMKhQKWKdIKpQKbfmCKccKKdfYKGKbeQKeYKcIKfOKkSKnEKeOKoKKdYKGUcYKqGKdYKzMKdIKjMKcSKqGKyyGKd",
     "mCKdIKfEKuOKbkdYKecQbYdnCKqGKtIKjNKbgVKhbAK"]⟩,
  ⟨["nl", "letternumber"],
    ["irUDdyTbJCEfmSBZJODbsyLKbifGcBrSBIBfEFmeSeH"]⟩,
  ⟨["no", "othernumber"],
    ["gWCFBCDdmRGoMGeQDfDHiJHRJqRKbpLUbrVKsMBcmVBDGGKhQQbPBbbYcIdAWyGbEcbHBbtCEfIKbEIBPbGKbNPbsmIG",
     "bhqNbTcNERCnDbBbKEbzGIZHbNJcXFWGgECCQCbUcMJcACbEDcXFeAIYIbPHmSGnObFgCKbQEeIHfEUoPUbzXCqOJbhN",
     "TbgTVbcpQHbeSXblyFUMUeEZibUJbjTcHBDBEcYbTBPblAN"]⟩,
  ⟨["pc", "connectorpunctuation"],
    ["dRBmbVCTBdgaOCYDjFB"]⟩,
  ⟨["pd", "dashpunctuation"],
    ["bTBcaUBbZBfkJBbnPBdbDGfhXBCBbFCEBbCBrEBTBeHBczwACbLBKBgNBflOBmGB"]⟩,
  ⟨["ps", "openpunctuation"],
    ["bOBbYBbFBfpEBBBcuOBdpMBDBbMBcDBPByKBBBbEBbpUBBBBBBBBBBBBBdCBbGBBBBBBBBBpOBBBBBBBBBBBBBBBBBBB",
     "BBcMBBBbHBboVBBBBBBBZBSBBBBBBBqMBBBBBBBBBDBBBBBBBCBczrTBiHBbDBBBBBBBBBBBBBBBDBRBBBBBgOBbYBbF",
     "BDBCB"]⟩,
  ⟨["pe", "closepunctuation"],
    ["bPBbZBbFBfpDBBBcuOBdrDBcDBPByKBBBbEBbpUBBBBBBBBBBBBBdCBbGBBBBBBBBBpOBBBBBBBBBBBBBBBBBBBBBcMB",
     "BBbHBboVBBBBBBBbSBBBBBBBqMBBBBBBBBBDBBBBBBBCCczrQBiJBbDBBBBBBBBBBBBBBBDBRBBBBBgOBbZBbFBCBCB"]⟩,
  ⟨["pi", "initialpunctuation"],
    ["gPBlxKBCCCBZBffSBBBEBCBPBDB"]⟩,
  ⟨["pf", "finalpunctuation"],
    ["hFBlwVBDBbCBffSBBBEBCBPBDB"]⟩,
  ⟨["po", "otherpunctuation"],
    ["bHDBDCBBBBCKCDCbBBcQBFBOCHBbbABIBrYGbPBcCBCBCBbSCUCBCNBBDcWEdYBbROiZDcCPbFBkBCKBfKBeQBeRBpAB",
     "MBoDBdMBKCgMPBBeIBcWFECeHGgPBxOJbdTBeUDcTCgBDBDbLGBEmBCiICeYHBGgECKHbCDeUEcHFcKCcMILBbgCCIII",
     "JCECDDLBBBKeuCEBCeIBfNCEDCBCJBCBBCCKFBKCEBBBNCDqMDcFBhHBbryGCkJDdVBKBeLGoQEdICbODBBbXCbVBdTN",
     "QCeUEeWCQCjPBbfcUHCBWBUCCEDDBEHDGBBCfTDBDCBBBBCKCDCbBBbKBCCpUDzSBbWBpYBbcPBhRBbFBkMJbMBeIHcO",
     "HdLEbkQFbSEhHHeFCBEeWEbWCdBEEBNBBDdKGeDBlMCBCeKFKCBBeABjQXeBDbCNcYBfADjSBkEDfZBdOIdFDBFdPKiH",
     "BdRFbQCyVCcWNgTBbrSFejCCwdVCfDBcNFIBvGDlJEmPBbdbOBliLFeiTBbhEC"]⟩,
  ⟨["sm", "mathsymbol"],
    ["bRBQDcJBBBbTBEBbLBbFBbdMBuHDjyHBNBbNDNDfJBbNFGBcQFFCEBCBCBHBbFCCBBBbFkIbGCdMBbEZbOGsBBJBcCIe",
     "HBmYFCbFKQjWfBWcLEbGCjYbWVCGdasQBbfSBBDgIBQDcJBBBfBBGEfeFCcyeZBZBbFBZBbFBZBbFBZBbFBZBiuEC"]⟩,
  ⟨["sc", "currencysymbol"],
    ["bKBeVEbwJBeTBtECtECHBjLBkDBwJBdqPBdiIbHbzhVBbgmLBeEBfYBiLCDCmcSEcvxEBdrKB"]⟩,
  ⟨["sk", "modifiersymbol"],
    ["dQBBBcTBGBEBDBuBEMOFHBBBReNBOCbxIBiuMBBDLDNDNDNCghOCbsvRXJCdZCblOBOCbekKRbiHBBBgGBdolJF"]⟩,
  ⟨["so", "othersymbol"],
    ["gKBCBEBBBblPBkGCeXChYBKBTCjNBtVBoJBfAGBBfCBhZBbPBpBDPBBDCGUBBBBBfDIBGBCFEhPCbcYKbbVBbbUBgBbI",
     "nPKJJccHCBEBCKBBCGGBBBBBBEBLCOBBCBBcGCJFCEBCBCBHBbFCCBBBbFkIIEUCHCdDBbEZbOGcUWLdDdAWhBBJBcCI",
     "eHBjObSbScMjWtSbWVCGbNCbGBeBiVGnTCbUbABdLMiGbAQEBNCMBVCGCmYCEKbGbMJBQbFLbEIBPbGKbNPmIjtOcMbg",
     "uIcDbhHEKCBBwBDbfjAQeXBbTDsQBDBECNCmBJcFRCDBNDBbVbTclUCwTBesSBdgNIERbcnIEFBbeuWBfvNjGQqUgAeM",
     "cIjMKbNCcIFDWCHbEEcJVcODBhEdJbtXtScDEbYIBOBCcoUBehWBeZBbbTbSEdWMPCPBPBbLXgFcEbDNbSEJHCOGfYjR",
     "FbcAERDNDePEdRGMEBPMEcEIKGbOIbECMECcKnCMOCNDKFcEHPCLGJHfRBdO"]⟩,
  ⟨["zs", "spaceseparator"],
    ["bGBeXBihJBdpNLbKBbVBfxWB"]⟩,
  ⟨["zl", "lineseparator"],
    ["meQB"]⟩,
  ⟨["zp", "paragraphseparator"],
    ["meRB"]⟩,
  ⟨["cc", "control", "cntrl"],
    ["AbGdRbH"]⟩,
  ⟨["cf", "format"],
    ["gRBcaKGWBhKBbXBoUCdCBftJBdaQFbAFbXFBKdghJBjPDgiZBPBnkKQbzqUEhwXIbtkzMBbEdS"]⟩,
  ⟨["co", "privateuse"],
    ["dgvOjmEcahxOdsyOCdsyO"]⟩,
  ⟨["cn", "unassigned"],
    ["biECGEHBBBUBpHBbMCbYCDBcDIbBEGLkKBcICdXOcHCbXCPBbCCBBLFbFBCFjDBICCCWBHBBDECJCCCEIBECBFCZCDBG",
     "ECCWBHBCBCBCCBBFECCDDBHEBBHRKDBJBDBWBHBCBFCKBDBDCBPECMHHBDBICCCWBHBCBFCJCCCDHDECBFCSKCBGDDBE",
     "DCBBBCDCDDDMEFDDBECBGBOVFNBDBXBQCJBDBEHCBDCBCECKHWBDBXBKBFCJBDBEHCGCBECKBDMNBDBbZBDBGEQCbABD",
     "BSDYBJBBCHDBEGBBBIGKCDMcGEbDbLCBBBFBYBBBXCFBBBHBKCEbGcUBbKEbNBbKBPBNbLhQBBFBCoNBECHBBBECbPBE",
     "CbHBECHBBBECPBcFBECcPCbGDbAGdICGCzTDdLHWJYJUMNBDBCMdQCKGKGbAGdLHbRFcSKbFBMEMEBDbQCFLbSEbAGLD",
     "cKCcNBbDCLGKGOCbFbXcZBgKIcIDPDcKFbRCLIbRFuOCGCbMCGCIBBBBBBBbFCcBBPBOCGBTCDBJBdXBMCbBBNDbHPbH",
     "PfKEzQWLVcrSCbGBnLFbTBBFBCcEHCOYJHBHBHBHBHBHBHBHBeWbIbABdLMiGbAdCBdICdZFbRBdQBdIJbWBbriRDcDJ",
     "nKUhCIhYCCBBBIVcHDKGcEIcSIMGeMLbEDdABLEbHBcDJOCKCdZYbCKGCGCGJHBHBcIEeWCKGqnSMXEbXEnbACeCbMHM",
     "FFbABFBBBCBCBeVQrDCcCHBbGbQGbZBTBEEFBfFCBBhIDGCGCGCDDHBHKFCMBbABTBCBPCObIeTFDEbTDdKBNDBbVbUf",
     "AbDDbXPbCEbKJbEFbRFbEBbLEObQgCCKGbKEbKEbOIcALMBPBHBCBLBPBHBCDcAMlZJWKIYGBbQBJcRGCBBbSBCDBCXB",
     "cUIJbWTBCFbHDbBFBcMcEEUCbYBCFIBDBbDCDEKHJHcMbGbNEMJcCDbDCbBFbAHEMHdCcVcDbZNbZHbUIKGbMDbDICiA",
     "bFBbQBDCCQDcDbSIbQWbAbMbCUXJdAEbKJcQKBCZHKGcBBSIbNJdSBULSBbVcKHBBBEBPBLGcHFKGEBICCCWBHBCBFBK",
     "CCCDCBGBFHCHDFLKBBCBBbMBKBBCBBEBKBCICbDdOBFbEcUIKgKcCCbMbIcRLKGNTcGGKGUbCbBCPEXhDcIdWdFMICBC",
     "IBCBbEBCCMJKcSICbUCLbBcUIdFNcVHKhAbIOKGJBbTBOKbDDbGCWBOcVHBCBbSDBBCBJIKGGBCBbLBCBGHKlYZHRBbP",
     "DbDdHBPbYNbjNdYeHBFLhOdxKdVNbqSKfxRFwLkdDcGcoSvXHbFBKEdDBKGbECGKcSKKBHBVFTqQcGhQdNdXcXEcFHRc",
     "MFLCOjcAIbvQbPKnfREBHBCBlFPBbDDCBOEIpGdkUeDFNDJHKCIfvGjQGqUcYbUCXJeMcIjMKbNChMVcSeSUMUMdJJZf",
     "FdHBcTBCCBCCCEBMBBBHBcNBECIBHBbCBEBFBBDHBnCClGCbbAPFBPbqMbFGGiFHBRCHBCBFFcKbHBeIbTDOCKECmIbF",
     "RcGFBrWbQiGbREBsMHBEBCBPBhPCQbPcYEKECbeFcQcYcJhMEBbBBCBBCBBKBEBBBBGBEBBBBBBDBCBBCBBBBBBBBBBC",
     "BBCEBHBEBEBBBKBRFDBFBRcACkKbSEdWMPCPBPBbLKgScEbDNbSEJHCOGfYblWERDNDePEdRGMEBPMEcEIKGbOIbECME",
     "CcKnCMOCNDKFcEHPCLGJHfRBdYbnQclfCbGgdUGiOCinQOlbLPxYdqWuWcfYhhZFgfGbomxLBbEdSeYjGdsfOdsyOCds",
     "yOC"]⟩]

/-- A group of categories under names of its own. -/
structure CategoryGroup where
  names : List String
  members : List String

/-- The groups. -/
def categoryGroups : List CategoryGroup := [
  ⟨["lc", "casedletter"], ["lu", "ll", "lt"]⟩,
  ⟨["l", "letter"], ["lu", "ll", "lt", "lm", "lo"]⟩,
  ⟨["m", "mark", "combiningmark"], ["mn", "mc", "me"]⟩,
  ⟨["n", "number"], ["nd", "nl", "no"]⟩,
  ⟨["p", "punctuation", "punct"], ["pc", "pd", "ps", "pe", "pi", "pf", "po"]⟩,
  ⟨["s", "symbol"], ["sm", "sc", "sk", "so"]⟩,
  ⟨["z", "separator"], ["zs", "zl", "zp"]⟩,
  ⟨["c", "other"], ["cc", "cf", "co", "cn"]⟩]

end ApiContract.Unicode
