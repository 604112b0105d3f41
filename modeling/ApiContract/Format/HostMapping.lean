import ApiContract.Unicode.Case
import ApiContract.Unicode.Numbers

/-!
The characters of host names in every script. What people type is mapped to what names hold: case is
folded, and compatible forms of a character are replaced by the character.
-/

namespace ApiContract.Format

open Unicode (CodePointSet readNumbers)

/-- The characters that names hold. -/
def hostChars : CodePointSet := .ofLines
  ["AcNbAbLbHHBBBCBBBCECDBDBXBHbHBBBBBBBBBBBBBBBBBBBBBBBBBBBBBBBBBBBBBBBBBBBBBBBBBBDBBCBBBBBBDBBBB",
   "BBBCBBBBBBBBBBBBBBBBBBBBBBBBBBBBBBBBBBBBBBBBBBBBBCBBBBBBBCBBBCBDCEBCBDDCBCBBBBBCBBCBBCBDBBBCDB",
   "HKBBBBBBBBBBBBBBCBBBBBBBBBBBBBBBBBCEBDBBBBBBBBBBBBBBBBBBBBBBBBBBBBBBBBBBBBBBBBBBBBBBBBBBBBBBBB",
   "BBHCBCCBBEBBBBBBBBdTJbFGCFdNCBDJBbGBBBBBBBBDDSBbBbJIBBBBBBBBBBBBBBBBBBBBBBBBBDBCBBBCCbZbWBBBBB",
   "BBBBBBBBBBBBBBBBBBBBBBBBBBBBJBBBBBBBBBBBBBBBBBBBBBBBBBBBBBBBBBBBBBBBBBBBBBBBBBBBBBBCBBBBBBBBBB",
   "BBCBBBBBBBBBBBBBBBBBBBBBBBBBBBBBBBBBBBBBBBBBBBBBBBBBBBBBBBBBBBBBBBBBBBBBBBBBBBBBBBBBBBBBBBBBBB",
   "BBBBBbPbUBDCDBcDIbBEGRWBdKEdWBbWCcHCdXOcHCbXCPBbCCBBLFbFIcXBeNIbKBICCCWBHBBDECJCCCEIBIECZCDBGE",
   "CCWBHBBCBCCCBBFECCDDBKBJRKDBJBDBWBHBCBFCKBDBDCBPECMHHBDBICCCWBHBCBFCJCCCDHDHFCSKCBGDDBEDCBBBCD",
   "CDDDMEFDDBECBGBOVFNBDBXBQCJBDBEHCBDCBCECKHWBDBXBKBFCJBDBEHCGCBECKBDMNBDBbZBDBGEQCbABDBSDYBJBBC",
   "HDBEGBBBIGKCDMbYBHEbDbLCBBBFBYBBBMBKCFBBBHBKECbGMBcCBEBEBEBEBEBMBDECBBFHBRBEBEBEBEBEBMBDBPBNbL",
   "gEbWbSBdUCiYBECHBBBECbPBECbHBECHBBBECPBcFBECcPCbGDbAGdIKyQBbCDdLHWJYJUMNBDBCMcACbOCKGKGLFKGdLH",
   "bRFcSKbFBMEMEBDbQCFLbSEbAGLDcKCcNBbDCLGKGOCbFbXcZBgKIcIDPDbZKBcBIIbRFbSDBLBSBbCNBbIbLcMBBBBBBB",
   "BBBBBBBBBBBBBBBBBBBBBBBBBBBBBBBBBBBBBBBBBBBBBBBBBBBBBBBBBBBBBBBBBBBBBBBBBBBBBBBBBBBBBBBBBBBBBB",
   "BBBBBBBBBBBBBBBBBBBBBBBBBBBBBBBBBBBBBBBBBBBBBBBBFCCBBBBBBBBBBBBBBBBBBBBBBBBBBBBBBBBBBBBBBBBBBB",
   "BBBBBBBBBBBBBBBBBBBBBBBBBBBBBBBBBBBBBBBBBBBBBBBBBBBBBBJIGKIIIIGKIIIIBBBBBBBBBBBBBbZCEBPBJDDCID",
   "BEOBVCCBBFBMDBIDCBCEBBBIDNBHcNIBYPbHTBDBLBCCFCDBBBBBBBEBLBGEFGbWDBFBCEgACBCjOCjVWLgEbyNBdZDdXB",
   "fVCbGBeBbWbWBBDCBBBBBBEBBCBGFBBBBBBBBBBBBBBBBBBBBBBBBBBBBBBBBBBBBBBBBBBBBBBBBBBBBBBBBBBBBBBBBB",
   "BBBBBBBBBBBBBBBBBBBBBBBBBBBBBBBBBIBBBEBBFbTBBFBCcEIBOYJHBHBHBHBHBHBHBHBeWbIbABEBdFkKBBbZBBDFBd",
   "ICCCCBdRGbRdSCOcSKQcUIbVBoUbqqFDcDJnKVBBBBBBBBBBBBBBBBBBBBBBBBBBBBBBBBBBBBBBBBBBBBTBBBBBBBBBBB",
   "BBBBBBBBBBBBBBBBBCdMIbIBBBBBBBBBBBBBDBBBBBBBBBBBBBBBBBBBBBBBBBBBBBBBBBBBBBBBBBBBBBBBBBBBBBBBBB",
   "BBBBBBIBBBBCBBBBBBBBEBBBCBBBDBBBBBBBBBBBBBBBBBBBBFBFBBBBBBBBBBBBBBBEBBBCBDBBBBBBBBBBBbACCbZDKG",
   "cEIcSIMGeMLbEDdABLEbHBcDJOCKCdZYbCKGCGCGJHBHBbSEJBCdGbUCKGqnSMXEbXmxMCBBBCKBBBBCCDjKBfRRoPSeXB",
   "bTDbGQVCbSBpGMBbABTBCBPCObIeTFDEbTDdKBNDBbVbUfAbDDbXPbCEbKJbEFbRFbEBbLEOdEeOCKbUbKEbOIcALBbNLB",
   "PBHBCDcAMlZJWKIYBeXGCBBbSBCDBCXBcUIJbWTBCFbHDbBFBcMcEEUCbYBCFIBDBbDCDEKHJHcMbGbNEMJcCDbDCbBFbA",
   "HEMHdCcVePbZHbUIKGQZbDICiAbFBbQBDCCQDcDbSIbQWbAbMbCUXJdAEbKJcKBFNZHKGcBBSIbNJdSBULSBbVcKHBBBEB",
   "PBLGcHFKGEBICCCWBHBCBFBKCCCDCBGBFHCHDFLKBBCBBbMBKBBCBBEBKBCICbDdOBFbEcUIKgKcCCbMbIcRLKGNTcGGKG",
   "UbCbBCPEXhDcIfCbZMICBCIBCBbEBCCMJKcSICbUCLbBcUIdFNcVHKhAbIOKGJBbTBOKbDDbGCWBOcVHBCBbSDBBCBJIKG",
   "GBCBbLBCBGHKlYZHRBbPDbDdHBPbYNbjNdYeHBFLhOdxKdVNbpGQWKfxRFwLkdDcGcoSvXHbFBKEdDBKGbECGKcSKKBHBV",
   "FTqQcGiWcHdXcXEcFHRcMFLCOjcAIbvQbPKnfREBHBCBlFPBbDDCBOEIpGdkUeDFNDJHKCEfvKiGbQqUcYbUCXJeMcIjMK",
   "bNCcBHOIcMGbQVcSeSUMUMdJJZbsPzCPFBPbqMbFGGiFHBRCHBCBFdWBeIbTDOCKECmIbFRcGFBrWbQiGbREBsMHBEBCBP",
   "BhPCQcXbQEKECbeFcQcYcJqSCkKbSEdWMPCPBPBbLVFbFBbGbADbJBbDcEbAdSGfYblWERDNDePEdRGMEBPMEcEIKGbOIb",
   "ECMECcKnCMOCNDKFcEHPCLGJHfRBdOboAclfCbGgdUGiOCinQOlbLPxYgrQhhZFgfG"]

/-- So many characters in a row, and what replaces the first of them. Either the same replaces all,
or the last code grows by one from each to the next. -/
structure Replacement where
  first : Nat
  count : Nat
  isConstant : Bool
  codes : List Nat
deriving Repr

/-- Reads rows after some code: the distance of each, twice its count and its kind, the length of the
replacement and its codes. -/
def replacementsFrom : Nat → Nat → List Nat → List Replacement
  | fuel + 1, last, distance :: kind :: length :: rest =>
      let first := last + distance
      let count := kind / 2 + 1
      ⟨first, count, kind % 2 == 1, rest.take length⟩
        :: replacementsFrom fuel (first + count) (rest.drop length)
  | _, _, _ => []

def replacementNumbers : List Nat := readNumbers
  ["gEABbGHACbGbdWBABdTCAABACbGbdSCCBbYAACbGbdPDACbGbfBAABbXAABeHBADbXmfScAAADbXmfSbYAADbZmfScAeJA",
   "CeBbdVBDCeBeCLDCeEhBIACbaYeGeSFCdWoSAFCeEeCAFCeGeCbKFCdWeShGABeAAABxQAABeCAABeKAAByJAAByLAAByR",
   "AABePAABeRbFCCbGbdUAACbGbdYAACbGbfCAACbGbdRAACbGbdZCABxNAABeEAABeLAABeQAABzLdNCBbdOBABbeHAACbd",
   "WbdPKAAbKABbaVFACbGbkRDABcHFACbGbdPAADbGbdWbdPBABhBcGABblAPABblDAABblLAABblJbDABblBGABblBpHACc",
   "bDccGjDACciPclOAACcjWclOAACcoTclOAACcjYclObcHACdlLdmYAACdlMdmYAACdlNdmYAACdlSdmYAACdlXdmYAACdl",
   "YdmYAACdmHdmYAACdmLdmYeUACdqVdrWAACdqWdrWBACdrJdrWdFACdwKdwUCACdwQdwUbIACdvIdwUAACdvJdwUAACdvO",
   "dwUCACdwDdwUjTACefPegQAACefQegQbbXACfkVfjUeXACfpTfoSbOACfoLfnTAACfoLfoBbUABfsDcCACfuGfyTJACfuQ",
   "fyTEACfuVfyTEACfvAfyTEACfvFfyTMACfuEfyRJACfwBfwCBACfwBfwEAACfyOfwQAADfyOfwBfwQAACfyPfwQAADfyPf",
   "wBfwQHACfwBfwQRACfxIfyTJACfxSfyTEACfxXfyTEACfyCfyTEACfyHfyTMACfxGfyRmKABgkAdUDAckHDAdHJAbyIABd",
   "TAABiWAABdUBCBdWAABsJAOBdZBABeHAABvBAABeIAABeKACBeMAABePAABdTACBwUAABkzQAABdUACBdWAABxDACBxFAA",
   "BdZBABeDAABeFAABmTAABeHAABwYACBlaKAABeIACBeMAABlaRAABxZAABeOAABlaZAEBbkKACBblEAABeBAABeKACBeNA",
   "CBbkKAABbkZACBblENABbpTbIABwWAABdVAABwZAABjGAABxGAABdYAABxJAABxLAABxPAEBxSAABleHAABzTAABxXAABl",
   "eRAABzVAAByBAAByAAGByCAAByIACBySAABqLACByZAABlaQACBzBAABeSAEBzGAABbkQiKACdTbbAiGABbkEBABbkFBAB",
   "bkGBABbkHBABblKBABblLBABblMCACltGbkRAACltHbkRAACltIbkRAACltJbkRAACltKbkRAACltLbkRAACltMbkRAACl",
   "tNbkRAACltGbkRAACltHbkRAACltIbkRAACltJbkRAACltKbkRAACltLbkRAACltMbkRAACltNbkRAACluMbkRAACluNbk",
   "RAACluObkRAACluPbkRAACluQbkRAACluRbkRAACluSbkRAACluTbkRAACluMbkRAACluNbkRAACluObkRAACluPbkRAAC",
   "luQbkRAACluRbkRAACluSbkRAACluTbkRAAClwYbkRAAClwZbkRAAClxAbkRAAClxBbkRAAClxCbkRAAClxDbkRAAClxEb",
   "kRAAClxFbkRAAClwYbkRAAClwZbkRAAClxAbkRAAClxBbkRAAClxCbkRAAClxDbkRAAClxEbkRAAClxFbkRCAClxObkRAA",
   "CbkJbkRAACbkEbkRCACmaGbkRDABbkEAACbkJbkRAACbGbeHBACbGbeHAACbGbgCAADbGbdWbgCAAClxSbkRAACbkPbkRA",
   "ACbkGbkRCACmaWbkRBABbkFBABbkGAACbkPbkRACDbGbeHbdOAADbGbeHbgCLABbkHBCDbGbeIbdOAADbGbeIbgCLABblL",
   "BCDbGbdWbdOAABdSCAClyAbkRAACblHbkRAACblMbkRCACmcSbkRBABblKBABblMAACblHbkRAACbGbdPAACbGbeIBVBbG",
   "AAAFABmdSFACbGbfNXABbGDACmfAmfAAADmfAmfAmfABACmfDmfDAADmfDmfDmfDEACbHbHBACbGbdTIACcLcLAACcLbHA",
   "ACbHcLNAEmfAmfAmfAmfAHABbGAJAFLAAABbWAABeBCKBcAAABbRAABmxMAABcJACBbOAABeGASBbWAABbRAABmxMAABcJ",
   "ACBbOBABdTAABdXAABeHAABeQAABxDAABeAAGBeDAABeIACBeLLACeKeLdJADdTbVdVAADdTbVeLAABdVAACgUdVBADdVb",
   "VeHAADdVbVeNAABxFBACgUdYACBdZAFBeAAABlJADBeBADBeEBABeGAACeGeHCEBeIADBeKCACeLeFAADeMdXeEAACeMeF",
   "BABeSDABeSDCBdUBDBdXAABdYBABeFAABeHAGBcfGAABeBBADdYdTeQAABbkYADBbkLAABbkYAABmxLEDBdWAABdXACBeB",
   "GADbXmfScDAADbXmfScFAAEbXmfSbXbWAADbXmfSbZAADbYmfSbZAADbXmfScBAADbYmfScBAADbZmfScBAADcAmfScBAA",
   "DbXmfScCAADcBmfScCAADbXmfScEAADbZmfScEAADcBmfScEAADcDmfScEAACbXmfSAABeBAACeBeBAADeBeBeBAACeBeO",
   "AABeOAACeOeBAADeOeBeBAAEeOeBeBeBAACeBeQAABeQAACeQeBAADeQeBeBAABeEACBdVAABeFAABeBAACeBeBAADeBeB",
   "eBAACeBeOAABeOAACeOeBAADeOeBeBAAEeOeBeBeBAACeBeQAABeQAACeQeBAADeQeBeBAABeEACBdVAABeFJADbWmfSbZ",
   "gGACmyLmyLAADmyLmyLmyLBACmyOmyOAADmyOmyOmyOjOCBseYlXQBbXASCbXbWAACbYbWAADbObXbPAADbObYbPAADbOb",
   "ZbPAADbOcAbPAADbOcBbPAADbOcCbPAADbOcDbPAADbOcEbPAADbOcFbPAAEbObXbWbPAAEbObXbXbPAAEbObXbYbPAAEb",
   "ObXbZbPAAEbObXcAbPAAEbObXcBbPAAEbObXcCbPAAEbObXcDbPAAEbObXcEbPAAEbObXcFbPAAEbObYbWbPUADbOdTbPA",
   "ADbOdUbPAADbOdVbPAADbOdWbPAADbOdXbPAADbOdYbPAADbOdZbPAADbOeAbPAADbOeBbPAADbOeCbPAADbOeDbPAADbO",
   "eEbPAADbOeFbPAADbOeGbPAADbOeHbPAADbOeIbPAADbOeJbPAADbOeKbPAADbOeLbPAADbOeMbPAADbOeNbPAADbOeObP",
   "AADbOePbPAADbOeQbPAADbOeRbPAADbOeSbPAbYBdTAbYBdTAABbWbyNAEmyLmyLmyLmyLdZADcGcGcJAACcJcJAADcJcJ",
   "cJdXACqgBbfSpZABeCAABeOjHABreVlRABbovLdFABcilRMABbdoAAABbdpOAABbdqCAABbdqLAABbdrLAABbdtDAABbdt",
   "KAABbduEAABbdvEAABbetZAABbevLAABbevRAABbewOAABbexIAABbeyDAABbfaEAABbfaZAABbfbKAABbfhJAABbfkZAA",
   "BbfmBAABbfmGAABbfnKAABbfnTAABbfoUAABbfpHAABbfqGAABbfsGAABbfsYAABbftZAABbgxBAABbgzVAABbhrNAABbh",
   "sKAABbhsSAABbhtDAABbhtVAABbhwTAABbipCAABbiqYAABbivOAABbiwLAABbixEAABbiyAAABbjaCAABbjaFAABbjoDA",
   "ABbjoNAABbjoZAABbjpMAABbjtYAABbjuGAABbjuLAABbjyYAABbjzIAABbjzVAABbkaDAABbkcMAABbkdDAABbkdVAABb",
   "kgXAABbldGAABblfAAABblfVAABbmiHAABbmiMAABbmlRAABbmmHAABbmmUAABbmnPAABbmpCAABbmpHAABbmzOAABbnaM",
   "AABbnbSAABbooUAABborIAABbosFAABbouLAABbovJAABbovSAABbovZAABboxZAABboyEAABbozKAABbqoXAABbrgCAAB",
   "brgOAABbrgTAABbrgXAABbrhFAABbrhXAABbrhZAABbrlCAABbrtKAABbrtPAABbsgQAABbshAAABbsiYAABbsjFAABbsj",
   "OAABbsjWAABbsnJAABbsnQAABbswKAABbswRAABbsyOAABbszFAABbtbAAABbtkDAABbtkKAABbtlBAABbtxQAABbucMAA",
   "BbucSAABbujSAABbunBAABbuoVAABbvdJAABbviMAABbweOAABbwfPAABbwhUAABbwjTAABbwmJAABbwmUAABbwnAAABbw",
   "oHAABbwrFAABbwrPAABbxeXAABbxfEAABbxfNAABbxfWAABbxgMAABbxhBAABbxhFAABbxkGAABbxkKAABbxkQAABbywJA",
   "ABbyxNAABbzpOAABbzqAAABbzqXAABcabUAABcacHAABcafAAABcagUAABcbcPAABcbdEAABcbdTAABcbfCAABcbgNAABc",
   "boEAABcboQAABcbrFAABccaTAABccbYAABccjZAABcckUAABcckZAABcctLAABcdaNAABcdfIAABcdfOAABcdfTAABcepR",
   "AABceqAAABcewAAABcfbYAABcfcBAABcfdWAABcfhXAABcfiKAABcfiOAABcfiVAABcfmPAABcfnXAABcfoDAABcfoRAAB",
   "cfvCAABcfxBAABcfxFAABcgeGAABcgeJAABcgfCAABcgoUAABcgqQAABcgqXAABcgtPAABcgtZAABcguCAABcguMAABcgv",
   "QAABchkVAABciaFAABciaPAABcicBAABcicXAABcidFAABcidPAABcidTAABcifHAABcifLAABcigCAABcigHAABcigUAA",
   "BcihVAABciiKAABciiSAABcikZAABcilOAABcilSbQABbGBABbUbZABsfIBABbfnTACBbfnWdSCCbGskNCACsjWsjYdRAC",
   "slNsmIbXCBglKAABgrYAABglMACBgsAAEBglNAKBgsEAABgmKAEBglQAABgmRASBglTAbOBgpDAAAACBgmEACBgtBAABgt",
   "GAABgtIAABgtNAABgtRAABgtTAABgmMAABgtXAABgtZACBgmNAABgmQACBgmSAABgmXAABgmZAIBgnBAABgnIAABgnMAAB",
   "gnWAABgoDAABgoIACBguRAEBgoTACBgqMAABgqQACBgqZAABgrCAABgrMAABgrPDABbdoAAABbdtKAABbdoJAABbgxFAAB",
   "bdoKAABbdpTAABbdoLAABbsjYAABbdrLAABbdoZAABbdoBAABbhtXAABbhaMAABbdvEdSADbOglKbPAADbOglMbPAADbOg",
   "lNbPAADbOglPbPAADbOglQbPAADbOglRbPAADbOglTbPAADbOglVbPAADbOglWbPAADbOglYbPAADbOglZbPAADbOgmAbP",
   "AADbOgmBbPAADbOgmCbPAADbOcndObPAADbOcowUbPAADbOcptKbPAADbOcrmQbPAADbOcsjGbPAADbOctfWbPAADbOcuz",
   "CbPAADbOcwsIbPAADbOcxoYbPAADbOcziEbPAADbOdaeUbPAADbOdbbKbPAADbOdbyAbPAADbOdcuQbPAADbOcycYbPAAE",
   "bOcxaYcxtKbPAAEbOcxaYddiQbPBADbObdoAbPAADbObdtKbPAADbObdoJbPAADbObgxFbPAADbObdtSbPAADbObevTbPA",
   "ADbObdoDbPAADbObevRbPAADbObdrPbPAADbObfnTbPAADbObnaMbPAADbObqoXbPAADbObozKbPAADbObnbSbPAADbOcd",
   "fTbPAADbObgzVbPAADbObmpHbPAADbObnlQbPAADbObnaNbPAADbObtxUbPAADbObfvPbPAADbObrjDbPAADbOcbgRbPAA",
   "DbObtyZbPAADbObfiIbPAADbObdwTbPAADbObfzWbPAADbObipYbPAADbObtaPbPAADbObdxXbPAADbOcbiDbPAADbObfo",
   "MbPAADbObtzPbPAADbObdyNbPAADbObxfEbPAADbObxfNbPAABbghZAABbjuIAABbmlRAABbuuPIADeIeMdXAQCbYbXAKC",
   "bZbWAABglKACBglMAEBglPAABglTACBglVAIBglYAABcndOAABcowUAABcptKAABcrmQAABcsjGAABctfWAABcuzCAABcw",
   "sIAABcxoYAABcziEAABdaeUAABdbbKAABdbyAAABdcuQAACcziUcnmEAACcycYcxmUAABcxgIBABbdoAAABbdtKAABbdoJ",
   "AABbgxFAABbdtSAABbevTAABbdoDAABbevRAABbdrPAABbfnTAABbnaMAABbqoXAABbozKAABbnbSAABcdfTAABbgzVAAB",
   "bmpHAABbnlQAABbnaNAABbtxUAABbfvPAABbrjDAABcbgRAABbtyZAABbfiIAABbudSAABbskDAABbhwTAABccrXAABbet",
   "EAABbfpOAABbpgIAABcfoVAABbdyNAABbexLAABborJAABbdoKAABbdpTAABbdoLAABbjoOAABbfuPAABbfnNAABbirVAA",
   "BbipYAABbtaPAABbdxXAABcbiDAABbfoMAABbhtKAGCbZcCASCcAbWAACcBbWAACbXbnaMAACbYbnaMAACbZbnaMAACcAb",
   "naMAACcBbnaMAACcCbnaMAACcDbnaMAACcEbnaMAACcFbnaMAADbXbWbnaMAADbXbXbnaMAADbXbYbnaMAACeAdZAADdXe",
   "KdZAACdXeOAADeEeMdWAABskWAABskYAABslAAABslCACBslEAABslHAABslJAABslLAABslNAABslPAABslRAABslTAAB",
   "slVAABslXAABslZAABsmBAABsmEAABsmGAABsmIAKBsmKAABsmSAABsmVAABsmYAABsnBAIBsnEAABsnKAABsnMAKBsnOA",
   "GBsnVAACbdwUbgaMAAEskWsmRsoIsmIAAEskWsnRsmVskVAAEskWsnZsnAskWAADskWsoIsnRAAEskYsmLsnZslKAADskY",
   "snZsmBAADslAslDsnZAAFslCslTslJsoIsmJAAEslCsoIslFsoIAADslEsnZslTAADslEsoIsnGAADslFskYsnQAAEslFs",
   "nPsmDsmIAAEslFsnTsnQsoIAADslGsnTsnZAADslGsnZsnEAACslIslGAADslIsmLsoIAAEslHsnLsnQsoIAAEslIsnRsm",
   "AsoIAACslHsnTAAFslHsnTslKsnPsnGAAGslHsnTsnHsoIsmIsnRAAFslHsnTsnVsmDsmIAADslKsnPsnGAAFslKsnPsnG",
   "smIsnZAAFslJsnRslWskYsnTAAEslJsnTsoIsmNAADslLsoIslTAADslNsnRsmKAADslNsoIsnDAAEslPskYslJsnRAAFs",
   "lPsnZsmBsoIsnGAAEslRsnQsnZslKAADslVsnZsmBAADslVsnZsmIAADsmAsoIslTAACsmHslRAACsmJsnRAACsmIsnZAA",
   "CsmKsmOAADsmOsmDsmIAADsmPskYsmEAAFsmRsoIslVsnZsmIAADsmRsoIsmEAAEsmQsoIsnSsnRAAFsmUskWslTsmIsnR",
   "AADsmUslJsnRAACsmUslNAACsmTsnRAAFsmVskVsnPsmDsmJAAEsmVskXsoIsmIAAFsmWsmDslRslBsnRAADsmVsnPsnZA",
   "AFsmYslJslZsoIsnRAACsnAslXAADsnAsmLsmSAADsmYsnRsmEAADsnAsnZslTAADsnAsoIslSAADsmZsoIslZAAEsnDsk",
   "YsnZsmIAADsnCsnRsmIAACsnBsnZAADsnDsnZsmJAADsnBsoIsnRAADsnBsoIsnZAAEsnEskYslJsnTAADsnEskYsnRAAD",
   "snEsmDsmPAADsnEsnRslJAAFsnEsnZslRsnNsnZAAEsnFslJsnTsnZAACsnFsnQAAFsnFsnQsmQsoIsnRAACsnHslGAAEs",
   "nHslGsmIsnZAAEsnHsoIsmIsnRAADsnKsoIsmJAADsnKsoIsnRAADsnMskWsnZAAEsnQsmDsmIsnRAACsnQsnPAADsnRsm",
   "UsoIAAEsnRsoIsmWsnRAACsnSsnGAAFsnSsnZsmIslMsnZAADsnVsmDsmIAACbWbqrXAACbXbqrXAACbYbqrXAACbZbqrX",
   "AACcAbqrXAACcBbqrXAACcCbqrXAACcDbqrXAACcEbqrXAACcFbqrXAADbXbWbqrXAADbXbXbqrXAADbXbYbqrXAADbXbZ",
   "bqrXAADbXcAbqrXAADbXcBbqrXAADbXcCbqrXAADbXcDbqrXAADbXcEbqrXAADbXcFbqrXAADbYbWbqrXAADbYbXbqrXAA",
   "DbYbYbqrXAADbYbZbqrXAADbYcAbqrXAADeAeIdTAACdWdTAACdTeNAADdUdTeKAACeHeOAACeIdVAACdWeFACDdWeFbYA",
   "ACeBeNAACbjtZbldOAACbmsBbgaMAACbhtVborJAACbmqWbpePAAEbnlQbjzZbdyWbtxUAACeIdTAACeGdTAACbkUdTAAC",
   "eFdTACCeDdTAACeFdUAACdZdUAADdVdTeEAAEeDdVdTeEAACeIdYAACeGdYACCbkUdYAACeFdZAACeDdZAACeAeSAADeDe",
   "AeSAADeFeAeSAADdZeAeSAADeMeAeSAACbkUeEAACeFeEAACdWeEAACeDeEAACdYeFAACeGeFAACbkUeFAACeFeFAACdVe",
   "FAACeDeFAADeFeFbYAADdVeFbYAACeFbYAADeDeFbYAADeFeFbZAADdVeFbZAACeFbZAADeDeFbZAADeFmxPeLAAEeFmxP",
   "eLbYAACeIdTAADeDeIdTAADeFeIdTAADdZeIdTAADeKdTdWAAFeKdTdWmxPeLAAGeKdTdWmxPeLbYAACeIeLAACeGeLAAC",
   "bkUeLAACeFeLAACeIeOAACeGeOAACbkUeOAACeFeOAACeDeOAACeFeOAACeIePAACeGePAACbkUePAACeFePAACeDePAAC",
   "eFePAACeDblHAACeFblHBACdUeJACCdVdVAAEdVmxPeDdZBACdWdUAACdZeRAACeAdTAACeAeIAACeBeGAACeDeDAACeDe",
   "FAACeDeMACCeEeFAADeEeHdZAACeEeQAACeFdUAADeFeBeEAADeFeHeEAACeIeABADeIeIeFAACeIeKAACeLeKAACeLeOA",
   "ACePdUAADeOmxPeFAADdTmxPeFAACbXbmpHAACbYbmpHAACbZbmpHAACcAbmpHAACcBbmpHAACcCbmpHAACcDbmpHAACcE",
   "bmpHAACcFbmpHAADbXbWbmpHAADbXbXbmpHAADbXbYbmpHAADbXbZbmpHAADbXcAbmpHAADbXcBbmpHAADbXcCbmpHAADb",
   "XcDbmpHAADbXcEbmpHAADbXcFbmpHAADbYbWbmpHAADbYbXbmpHAADbYbYbmpHAADbYbZbmpHAADbYcAbmpHAADbYcBbmp",
   "HAADbYcCbmpHAADbYcDbmpHAADbYcEbmpHAADbYcFbmpHAADbZbWbmpHAADbZbXbmpHAADdZdTeEbrkMABbqGAABbqIiCA",
   "BclkPeZABdVAABdYAABeJDABlJAABnBbhIABclhVAABcmvVAABxVAABcmwWJABzDbdjYABcbdGAABbmzSAABccbYAABcbi",
   "EAABbpzDAABbdpYAABbfuBADBcilOAABbhvLAABcdfTAABbgkDAABbhvCAABblcOAABbsvXAABbwhPAABbyvVAABbzkKAA",
   "BbzwQAABcctJAABbodUAABbpiHAABbqtDAABbrwWAABbycBAABcdbUAABcghTAABbdtAAABbfpTAABbonSAABbrfNAABby",
   "vDAABchwWAABbjiUAABbqjZAABbyrLAABcaaUAABblkRAABbxeMAABbzoHAABbjxIAABbnbBAABbplIAABbroEAABccvUA",
   "ABbedAAABbeyPAABbfjYAABbmeEAABbolVAABbrfCAABbtaTAABbwmJAABbytQAABbywYAABcbtNAABcfgSAABcgwLAABc",
   "hvMAABbtqYAABbuaHAABbvoYAABbxxPAABcdrOAABciaPAABcapAAABbhrBAABbjzOAABbvcQAABbwrEAABbriGAABbttI",
   "AABcbhYAABcfeLAABbhqUAABbizQAABboeLAABbppQAABbqbNAABbvkPAABbvuTAABcexVAABbfjMAABbwrRAABbfaAAAB",
   "bezKAABbugIAABbvqCAABbxzDAABcezLAABcavOAABblkXAABbodUAABcaqOAABbdqFAABbiuXAABbkjYAABbrtNAABbsm",
   "IAABbfmDAABbtvFAABbefFAABbkfXAABbdoNAABbpfGAABbmlCAABbvkCAABbfsTAABbhmCAABbtbTAABbycNAABcanIAA",
   "BbouSAABcckUAABbpcQAABblmSAABbxoVAABblsYAABbslXAABbduSAABbevPAABbezHAABbnoZAABbvhVAABbxkHAABca",
   "oWAABcdfRAABbfkVAABbfxQAABbhwTAABbjyQAABbmoBAABbqkSAABbtxAAABcerTAABcgmKAABcibNAABcidQAABbfhJA",
   "ABbmxYAABbosDAABcchUAABbjuAAABbkyQAABblcYAABbmcOAABbqcHAABbqxLAABbsdLAABbudEAABbvsEAABbwqPAABc",
   "cfMAABbyiWAABccpFAABcduGAABbfcHAABbfhRAABbgcJAABbqsMAABbzuOAABcanIAABbjxHAABbkiVAABblrNAABbouG",
   "AABbvbIAABbrsVAABbdwUAABbgyJAABbiuXAABbjmWAABbkkIAABbrvEAABbscFAABbwiKAABbwpAAABcdjOAABcfeKAAB",
   "cfhOAABcfpOAABbedFAABbucCAABcdeQAABcfcAAABbkrXAABbdtEAABbeqCAABbivEAABbiyHAABbmmJAABbodUAABbrc",
   "OAABbsuKAABbyjKAABccsQAABcikZAABbmvOAABcewSAABbfgRAABbneXAABbnjNAABbpjTAABbpxCAABbryNAABbslLAA",
   "BbtpRAABbvjKAABcfsGAABbevTAABbleSAABcezOAABbejJAABbjgRAABbpqGAABccfQAABbkeTAABbkvSAABbnkXAABbr",
   "tNAABcfaCAABbfcZAABbfvRAABbizTAABbmrBAABbndEAABbnqMAABbpgFAABbryKAABbsqSAABbwhDAABbzvBAABbzvTA",
   "ABcdfOAABcfdQAABbfnRAABbpyGAABbfwFAABbrcQAABbseAAABbytEAABcfbFAABchfJAABcibVAABbnfZAABbppBAABb",
   "xfCAABbunBAABbuqIAABbveOAABbrlWAABbqqRAABcauAAABbdvKAABbxrYAABbfdQAABbfbRAABbjvYAABbllBAABbvhE",
   "AABbirDAABbpiKAABbmxGAABccgHAABbzqAAABcexXAABcacHAABbjxRAABbeuAAABbgmICABbhlYBABbmuUCABbfaCAAB",
   "brpYAABbszQAABbtxSAABbtzAAABbtzHAABbuaXAABcfiCAABbvgGAABbwjTBABbyuCBABcaqICABccqAAABccxPDABcfx",
   "VAABcfyIAABcgaAAABchsUAABccwKAABcfbZAABbeeOAABbeqPAABbeuNAABbfjDAABbfkEAABbfoJAABbgkZAABbgpAAA",
   "BbgsUAABbhkYAABbhoYAABbizSAABbjaCAABbkoYAABbkxCAABbkyOAABblcKAABbmjNAABbmpEAABbmvXAABbnpDAABbp",
   "lVAABbpsCAABbqcGAABbqyWAABbrgDAABbrzMAABbtrDAABbtxUAABbtyFAABbtyEAABbtyMAABbtySAABbtyZACBbuaVA",
   "ABbuhSAABbukFAABbuwMAABbvsEAABbvsZAABbvvDAABbwgWAABbwmNAABbxfHADBbxkRAABbydBAABbzxOAABcacSAABc",
   "aqRAABcasVAABcbiPAABcbkQAABcclAAABccqAAABcfdRAABcfoPAABcfqXAABbknTAABilgGAABbxgYCABbdpMAABbeyN",
   "AABbevOAABbecUAABbeuFAABbewMAABbfjBAABbflAAABbgkZAABbgiFAABbgkVAABbgnQAABbhlYAABbhpJAABbhuYAAB",
   "bhvOAABbifYAABbinOAABbjxQAABbjxXAABbkdLAABbkgBAABbkrOAABbkwCAABbktKAABbkyOAABbkwUAABblcKAABble",
   "YAABbluIAABblxSAABblzUAABbmjUAABbmuUAABbnbBAABbnbFAABbndMAABbosFAABbouSAABbpjTAABbpzNAABbpyXAA",
   "BbqcGAABbqlYAABbqyWAABbtiDAABbrgNAABbrlFAABbrpYAABbscNAABbsiGAABbskHAABbssZAABbstBAABbszQAABbt",
   "aHAABbtbGAABbteOAABbteEAABbttKAABbumBAABbuwMAABbvdRAABbvmHAABbvsEAABbweWAABbwmNAABbxtAAABbxzBA",
   "ABbzhXAABbzzLAABcacCAABcacSAABcaoDAABcaqIAABcaoPAABcaqRAABcaqOAABcapXAABcasVAABcavYAABcbkQAABc",
   "cgEAABccsGAABcddPAABcdmCAABcezSAABcfdRAABcfiCAABcfnFAABcfoPAABcfpBAABcfqXAABcgsWAABcilOAABibdY",
   "AABibdSAABifnPAABwoZAAByhCAAByiJAABirbLAABivbCAABjhxZAABciiDAABcilAbMACdYdYAACdYeBAACdYeEAADdY",
   "dYeBAADdYdYeEADCeLeMMACcbScbUAACcbScbDAACcbScbJAACccCcbUAACcbScbLFACcfPceEBACcgOceHAABcfYAABcf",
   "GACBcfJAEBcfRAABcgEAABcgGAABbRACCcgFceRACDcgFceMceRACCcfGceHAACcfGceMAACcfHceMAACcfIceMAACcfJc",
   "eMAACcfKceMAACcfLceMAACcfMceMBACcfOceMAACcfPceMAACcfQceMAACcfRceMAACcfSceMBACcfUceMBACcfWceMAA",
   "CcfXceMBACcfZceMAACcgAceMBACcgCceMAACcgDceMAACcgEceMAACcgFceMAACcgGceMAACcfLceJAACcfHcePAACcfR",
   "cePAACcgAcePAACcfGcfSADBclLAHBclVAHBclYAHBcmAAHBclUAHBclZAHBclTAHBcnKAHBcnMAHBcmEAHBcmDAHBcmGA",
   "HBcmHADBcmNADBcmMADBcmOADBcmIADBcmYADBcmRAHBcnPAHBcnVAHBcnZAHBcnXADBcoGAHBcoHADBcoMAHBcoNAHBco",
   "KADBcpEADBcpFbHHBcnTADBcoTADBcoSADBcoUAACcoTclOADBcoXADBcoRADBcoVAHBcpCADBcjXADCciOciPADCciOcp",
   "HADCciOcjWADCciOcoTADCciOcoSADCciOcoUAFCciOcpCAFCciOcjXAHBcoYACCciOciUAACciOcjTACCciOcjXAECciQ",
   "ciUAACciQcjTACCciQcjXAECciSciUAACciScjTACCciScjXAACciTciUAACciTcjTACCciTcjXAACciUciVAACciUcjTA",
   "ACciVciUAACciVcjTACCciWciUAACciWcjTAECcjBciUAACcjBcjTAACcjDciVAACcjDcjTAECcjEciUAACcjEcjTAACcj",
   "FciVAACcjFcjTAACcjGcjTAACcjHciUAACcjHcjTAACcjIciUAACcjIcjTAECcjPciUAACcjPcjTACCcjPcjXAACcjQciV",
   "AACcjQcjTACCcjQcjXAACcjRciPAECcjRciUACCcjRcjSACCcjRcjXAECcjSciUAACcjScjTACCcjScjXAECcjTciUAACc",
   "jTcjTACCcjTcjXAECcjUciUAACcjUcjTACCcjUcjXAACcjVciUAACcjVcjTACCcjVcjXAECcjYciUAACcjYcjTACCcjYcj",
   "XAACciYclKAACciZclKAACcjXclKAADbGckAckFAADbGckBckFAADbGckCckFAADbGckDckFAADbGckEckFAADbGckFclK",
   "ACCciOciZACCciOcjTACCciOcjXACCciQciZACCciQcjTACCciQcjXACCciSciZACCciScjTACCciScjXACCciTciZACCc",
   "iTcjTACCciTcjXACCcjPcjXACCcjQcjXAACcjRciPACCcjRcjSACCcjRcjXAACcjScjTACCcjScjXAACcjTciPAACcjTcj",
   "TACCcjUciZACCcjUcjTACCcjUcjXAACcjXclKACCcjYciZACCcjYcjTACCcjYcjXAECciOciUAACciOcjTAACciOcjVAEC",
   "ciQciUAACciQcjTAACciQcjVAECciSciUAACciScjTAACciScjVAACciTcjTAACciUciVAACciUcjTAACciVciUAACciVc",
   "jTAACciWciUAACciWcjTAECcjBciUAACcjBcjTACCcjDciVAACcjDcjTAECcjEciUAACcjEcjTAACcjFciVAACcjGcjTAA",
   "CcjHciUAACcjHcjTAACcjIciUAACcjIcjTAECcjPciUAACcjPcjTAACcjQciVAACcjQcjTAECcjRciUACCcjRcjSAECcjS",
   "ciUAACcjScjTAACcjScjVAECcjTciUAACcjTcjTAECcjUciUAACcjUcjTAACcjUcjVAACcjVciUAACcjVcjTAACcjVclKA",
   "ECcjYciUAACcjYcjTAACcjYcjVAACciOcjTAACciOcjVAACciQcjTAACciQcjVAACciScjTAACciScjVAACciTcjTAACci",
   "TcjVAACcjBcjTAACcjBcjVAACcjCcjTAACcjCcjVACCcjRcjSAACcjScjTAACcjUcjTAACcjUcjVAACcjYcjTAACcjYcjV",
   "AADcjOckCckFAADcjOckDckFAADcjOckEckFACCcjFcjXACCcjHcjXACCcjIcjXACCcjBcjXACCcjCcjXACCciVcjXACCc",
   "iUcjXACCciWcjXACCcjDcjXACCcjEcjXAECcjCciUAACcjCcjTAACcjCciZAACcjBciZAACcjDciZAACcjEciZACCcjFcj",
   "XACCcjHcjXACCcjIcjXACCcjBcjXACCcjCcjXACCciVcjXACCciUcjXACCciWcjXACCcjDcjXACCcjEcjXAECcjCciUAAC",
   "cjCcjTAACcjCciZAACcjBciZAACcjDciZAACcjEciZAECcjCciUAACcjCcjTAACcjBcjVAACcjCcjVAACcjFcjTAECcjBc",
   "iUAECcjCciUAACcjFcjTAACcjGcjTADCciPcjZSADciSciUcjTADDciSciVciUAADciSciVcjTAADciSciWcjTAEDciScj",
   "TciUADDciUcjTciVAADciVcjTcjYAADciVcjTcjXAADcjBciVciUAADcjBciUciVAADcjBciUcjXADDcjBcjTciVAADcjB",
   "cjTciUADDcjBcjTcjTADDcjDciVciVAADcjDcjTcjTADDcjCciVcjTAADcjCciUcjYADDcjCcjTciWADDcjCcjTcjTAADc",
   "jEciVcjXADDcjEciWcjTADDcjFcjTciVAADcjFcjTcjTAADcjFcjTcjYAADcjHciUcjTADDcjHcjTcjTAADcjHcjTcjXAA",
   "DcjIcjTcjTAADcjIcjTcjYAADcjIcjTcjXADDcjPciWcjTAADcjQcjTciVAADcjQcjTcjTAADcjSciVcjTAADcjSciVcjY",
   "AADcjSciVcjXADDcjSciUciUADDcjSciWcjTADDcjScjTciVAADcjTciVciUAADcjTciVcjTAADcjTciVcjYAADcjTciUc",
   "iVAADcjTciUcjTAADcjTciWciUAADcjTciWcjTCADcjTciUciWAADcjVcjTciUAADcjVcjTcjTAADcjUciVcjTAADcjUci",
   "VcjXADDcjUciUcjTAADcjUciUcjXAADcjUcjTcjYAADcjUcjTcjXADDcjYcjTcjTAADciQciWcjYAADciSciUcjYAADciS",
   "ciUcjXAADciSciWcjYAADciSciWcjXAADciScjTcjYAADciScjTcjXAADciUcjTcjYAADciUciVcjXAADciUcjTcjXAADc",
   "jBciWcjXAADcjDciVcjYAADcjCciVcjYAADcjEciVcjYAADcjSciUcjYAADcjScjTcjYAADcjYciVcjYAADcjYciUcjYAA",
   "DcjYcjTcjYAADcjTcjTcjYAADcjQcjTcjYAADcjUciVcjYAADcjQcjTciVAADcjSciVcjTAADcjHcjTcjYAADcjRcjTcjY",
   "AADcjUciUciVAADcjTciWcjYAADcjSciUcjTAADcjRcjTcjTAADcjSciUcjTAADcjUciUciVAADciUciVcjYAADciVciUc",
   "jYAADcjTciUcjYAADcjPcjTcjYAADciQciVcjYAADcjRcjTcjTAADcjHciUcjTAADcjDcjTcjTAADcjBciWcjYAADcjUci",
   "UcjYbOADcjDcjScpEAADcjQcjScpEAAEciPcjScjScjVAAEciPcjRciQciZAAEcjTciVcjTciXAAEcjDcjScjHcjTAAEci",
   "ZcjBcjWcjSAAEcjHcjScjYcjVAAEcjWcjBcjScjTAADcjDcjScjXAAScjDcjScjXbGciPcjScjScjVbGcjHcjScjYcjVbG",
   "cjWcjBcjScjTAAIciUcjSbGciUcjSciPcjScjVAAEciZcoYciPcjSDbFAAABbSAABseRBCBcGAABbHAABcLACBsfMYABmd",
   "WAABmdVADBdRACBbOAABeTAABeVACBsfKACBsfGACBsfAACBseYAGBsfCCABdNAABdPAHCbGbdTAFBdRAABbSAABseRCAB",
   "cHAABcGAABcLAABbHAABmdWACBbOAABeTAABeVACBsfKAABbJAABbMACBbQAABbTAABcIAABcKAABcJBABdOACBbKAABcM",
   "EACbGcjZAACcjOcjZAACbGckABACbGckBBACbGckCAACcjOckCAACbGckDAACcjOckDAACbGckEAACcjOckEAACbGckFAA",
   "CcjOckFAACbGckGAACcjOckGACBciJACBciKACBciLACBciMACBciNAFBciOADBciPAHBciQADBciRAHBciSAHBciTAHBc",
   "iUAHBciVAHBciWADBciXADBciYADBciZADBcjAAHBcjBAHBcjCAHBcjDAHBcjEAHBcjFAHBcjGAHBcjHAHBcjIAHBcjPAH",
   "BcjQAHBcjRAHBcjSAHBcjTAHBcjUAHBcjVADBcjWADBcjXAHBcjYADCcjSciKADCcjSciLADCcjSciNADCcjSciPCAABcK",
   "BbHAbYBdTAcSBdNACBpsVAABbUACBsfCAABseRAABsoHAABsnYAABskVAABskXAABskZAABslBAABslDAABsnJAABsnLAA",
   "BsnNAABsmDAABsoIAABskWAABskYAABslAAABslCACBslEAABslHAABslJAABslLAABslNAABslPAABslRAABslTAABslV",
   "AABslXAABslZAABsmBAABsmEAABsmGAABsmIAKBsmKAABsmSAABsmVAABsmYAABsnBAIBsnEAABsnKAABsnMAKBsnOAABs",
   "nVAABsnZACBskNAAAACBglKAABgrYAABglMACBgsAAEBglNAKBgsEAABgmKAEBglQAABgmRASBglTDKBgpDCKBgpJCKBgp",
   "PCEBgpVDCBgGAABgQAACbGbdSAABgKAABgJAABmjPBABoaKAGBmsMAABogMAABoiDcwOCBbbSAABiWAABzPAABwXBABzZA",
   "ABcmxQAABbaBAABbaAACBxAAABlfDAABxCAABxIAABbaFAABxOAABxMAABxKAABzRAABlJAABzSAABxRAAByUACBbaGAAB",
   "xWAABgzkMAABcllUAABxYAABgzkNAABzEAABgzkOAABjOACByGAABeJAAByKAABgzkQACByNAAByQAABbaEAABbaCAABcm",
   "xRAABbaDAAByYAABqvPBABzFACBzXAABzOAEBrGAABgzkSAABgzlMcqnDHAgdMbYBdTASBbWbrGACgufVgugJAACgufWgu",
   "gJAIDgufWgugJgugSOPAcMACgujPgugJAACgujQgugJAADgujPgugJgugSAADgujQgugJgugSAADgujPgugJgugTAADguj",
   "QgugJgugTwDbYBdTAbYBdTAbYBdTAMBdTBbIBeBAbYBdTAbYBdTAABdTBCBdVCABdZCCBeCCGBeGBOBeLAGBdTBABdYBMB",
   "eABUBeIAbYBdTAbYBdTACBdTBGBdWCOBeCBMBeLBbYBdTACBdTBGBdWBIBeBBABeHDMBeLBbYBdTAbYBdTAbYBdTAbYBdT",
   "AbYBdTAbYBdTAbYBdTAbYBdTAbYBdTAbYBdTAbYBdTAbYBdTAbYBdTAABlTAABvVCbGBbkJAABbkQAMBblBAABmxBAbGBb",
   "kJADBblBAKBblCAABmwWAABbkNAABbkQAABbkSAABblEAABbkZAABbkYAbGBbkJAABbkQAMBblBAABmxBAbGBbkJADBblB",
   "AKBblCAABmwWAABbkNAABbkQAABbkSAABblEAABbkZAABbkYAbGBbkJAABbkQAMBblBAABmxBAbGBbkJADBblBAKBblCAA",
   "BmwWAABbkNAABbkQAABbkSAABblEAABbkZAABbkYAbGBbkJAABbkQAMBblBAABmxBAbGBbkJADBblBAKBblCAABmwWAABb",
   "kNAABbkQAABbkSAABblEAABbkZAABbkYAbGBbkJAABbkQAMBblBAABmxBAbGBbkJADBblBAKBblCAABmwWAABbkNAABbkQ",
   "AABbkSAABblEAABbkZAABbkYADBbmBCSBbWASBbWASBbWASBbWASBbWdcQQBbpGAEBbpQAUBbpUAABbqHACBbqJAABclbT",
   "AABbvTAABbqSAABbqUAABbwJAABbuDAABbvJAQBbpGACBbpQACBbpUAABbpXAKBbpZACBbqGAABbsZAABbqSAABbqRAABb",
   "rBAABbtZAABckzPAABbuFfdQCBciPAABciUAABciXBABcjWAABcjAAABciVAABcjFAABcjYAGBcjRAABcjBAABcjHAABcj",
   "PAABcjDAABcjQAABciZAABcjCACBciSAABciWAABciYAABcjEAABcjGAABcjIAABclIAABcoGAABcnHAABclJBABciQAAB",
   "ciUBABcjVCABciVBABcjYAGBcjRAABcjBAABcjHAABcjPAABcjDAABcjQBABcjCACBciSAABciWBABcjEBABcjIGABciUE",
   "ABciVBABcjYBABcjSBABcjUAABcjBAABcjHBABcjDAABcjQBABcjCCABciWBABcjEBABcjIBABcoGBABclJBABciQAABci",
   "UBABcjVCABciVAABcjFAABcjYAABcjRBCBcjTAABcjBAABcjHAABcjPAABcjDAABcjQBABcjCACBciSAABciWBABcjEAAB",
   "cjGAABcjIAABclIBABcnHBCBciPAABciUAABciXACBcjVAABcjAAABciVAABcjFAABcjYBEBcjSAABcjBAABcjHAABcjPA",
   "ABcjDAABcjQAABciZAABcjCACBciSAABciWAABciYAABcjEAABcjGAABcjIFABciQAABciUAABciXBABcjWAABcjAAABci",
   "VAABcjFAABcjYBEBcjSAABcjBAABcjHAABcjPAABcjDAABcjQAABciZAABcjCACBciSAABciWAABciYAABcjEAABcjGAAB",
   "cjIwJACbWbSAACbXbSAACbYbSAACbZbSAACcAbSAACcBbSAACcCbSAACcDbSAACcEbSAACcFbSFADbOdTbPAADbOdUbPAA",
   "DbOdVbPAADbOdWbPAADbOdXbPAADbOdYbPAADbOdZbPAADbOeAbPAADbOeBbPAADbOeCbPAADbOeDbPAADbOeEbPAADbOe",
   "FbPAADbOeGbPAADbOeHbPAADbOeIbPAADbOeJbPAADbOeKbPAADbOeLbPAADbOeMbPAADbOeNbPAADbOeObPAADbOePbPA",
   "ADbOeQbPAADbOeRbPAADbOeSbPAADsfKeLsfLAABdVAABeKAACdVdWAACePeSBbYBdTAACeAeOAACeFeOAACeLdWAACeLe",
   "LAADeIeIeOAACePdVbACCeFdVAACeFeKbJACdWeCeHACsjJshNAACslNslNAABslPNABblfVAABbipJAABbftCAABsmHAA",
   "BbdtKAABbhtIAABcafRAABbhtXAABbduIAABbmrOAABbqvXAABbmmJAABbfeJAABbkeUAABbewZAABbmnGAABbfcNAABbv",
   "lIAABbsjFAABcbgZAABbhrSAABbfxHAABbqbSAABbliRAABblqBAABbdoAAABbdoJAABccqSAABbjoOAABbdpTAABbfuPA",
   "ABblnBAABcboQAABblgDAABbuaJAABbujYAABbfvKAABbpwAAABbnaNAABbnaMAABbsjZAABbffUAABbglYAABcdaREADs",
   "fKbnbWsfLAADsfKbdoJsfLAADsfKbdtKsfLAADsfKbirHsfLAADsfKbqrXsfLAADsfKblgDsfLAADsfKbtaDsfLAADsfKb",
   "fjXsfLAADsfKbmjVsfLHABbkfFAABbfuLdqSSBbWdrlMABbdqJAABbdqEAABbdqNAABhmiKAABbebOAABbeeOAABbefBAA",
   "BbehUAABbemKAABbenPAABbeqPAABbepRAABtyCAABhogOAABbeuNAABbeuUAABbevKAABbewDAABhnvOAABtzDAABbevN",
   "AABbewZAABhnxJAABbexJAABbexWAABbdvWAABbeyEAABbeyNAABjpdNAABbfaZAABbfbNAABuaPAABbfdRAABbfeCAABb",
   "ffUAABbffZAABucRAABbfjBAABbfjDAABbfkEAABbflAACBbflLAABbfmDAABbfoBAABbfoJAABbfoSAABbfpRAABbfqBA",
   "FBbfqDAABhptKAABbqpCAABbftAAABbftVAABhqfJAABbfuHAABbfuNAABbfvIAABbgbEAABbfxGAABbfxWAABbfzCAABb",
   "gbIAABbgeOAABbgfOAABbgiDAABbgiTADBbgkAAABbgkVAABbglNAABbglVAABbgmKAABbgzMAABbgpAAABbgzNAABbgrX",
   "AABbgtGAABbfbRAABbhrQAABbhgOAABbhiAAABbhiZAABbhdZAABbhkKAABbhkJAABbhpCAABhtuYAABbhrUAABbhrZAAB",
   "bhsOAABbhtIAABbhtQAABbhwCAABhumIAABhuoWAABbibKAABbidFAABbidRAABbiaQAABbigCAABuuWAABuvKAABbimIA",
   "DBbioKAABhvrCAABbitNAABbiuIAABbiuXAABbivJAABhweAAABbivVAABbiwCAABbkcPAABbixEAABvaNAABbizOAABbj",
   "aCAABbjdGAABbjbHAABhxfOAABbjiHAABhxfQAABbjjYAABbjjVAABbjkMACBbjoJAABvhFAABbjpLAABbjrCAABbjrXAA",
   "BbjtPAABvjEAABhypFAABvkEAABbjwIAABbjwLAABbjwOAABbjxIAABjvvUAABbjzIADBhzfTAABbxgBADBbkaSAABvnBA",
   "ABifcQAABiwySAABbkdEAABbkdNAABvoDAABbkfIAABbkhHAABbkhRAABbkiZAABbkoFAABvrMAABvqIAABbkoYAABiapO",
   "AABbkqXAABbkvWAABbkwAAABbkwCAABbkwAAABbkxUAABbkyOAABbkzYAABbkzKAABbkzVAABblbQAABblcKAABblcOAAB",
   "bldOAABbldZAABblgNAABbljTAABbllCAABblpWAABicfCAABblpDAABblmQAABblqUAABblrVAABblvOAABicnXAABblx",
   "YAABbluJAABbltHAABwaWAABbmaRAABbmbMAABbmcRAABbmbFAABwdGAABbmjNAABbmkQAABiecGAABbmpFAABbmzWAABb",
   "mtDAABwjXAABbmvXAABwjGAABwhWAABbexEAABbexHAABbnaEAABbmwIAABbwsZAABzsBAABbnbBAABbnbFAABbnbLAABb",
   "ndUAABbndJAABifmXAABwlTAABbnjUAABbnfHAABbnnEAABbnpDAABiftLAABbnpMAABbnlFAABbnuQAABwoZAABbnwKAA",
   "BboaDAABbocWAABbokEAABigpFAABbomDAABwtSAABbooVAABihjBAABboqUAABwvUAABborYAABbotRACBbouSAABiibT",
   "AABhwxFAABiifYAABbpaKAABiixGAABbpeTAABbpfHAABbpbJAABbpiCAABbpjQAABbplVAABbpjTAABbplHAABbplWAAB",
   "bpmJAABijbAAABbpjGAABbpsXAABbpvIAABxePAABbpyXAABbpyTAABijrTAABbpqVAABbqfEAABijxEAABijzAAABbqiO",
   "AABbqmZAABbqlYAABbqlVAABxiKAABbqnQAABbqpPAABbqpJAABbqrLAABhnvXAABbqxHAABilaXAABbraQAABilnNAABb",
   "rgAAABbrgNAABbrhOAABimkUAABbrjKAABbrkFAABimwJAABineYAABbrtAAABbrtRAABxtCAABbruRADBxtOAABbsaXAA",
   "BbsbSAABbscNAABbsdHAABbsfYAABxxJAABbsjKAABiotQAABbskKAABioxEAABbsmIAABhyqHAABbssMAABiqbHAABiqc",
   "EAABiqhOAABygAAABygMAABbtbGAABiqoHAABiqoGAABiqpTAABiqqTACBbtcWAABbtcXAABbteOAAByiJAABbthBAAByi",
   "WAABylYAABirtLAABbtoOAABbtqYAABbttKAAByoXAABisnMAABbtySAABisrYAABistPAABbuaXAABbueLAAByrVAABbu",
   "hSAABbuiCAABbuiHAABituIADBiufVAABbuoKAAByzYAABiupVAABbuwSAABbuwVAABzbJAABiuyAAABbvhAAABzgAAABb",
   "vhWAABbvhRAABbviUAABiwbUAABbvmPAABzjTAABbvqLAABbvsSAABbvvHAABzlSAABixbSAABixcXAABznDAABixiNAAB",
   "bwhEAABixmKAABbwiFAABbwmCAABbwmNAABiycGAABiyfBAABbwqAAABiykEAABbwqQAABifjBAABzrXAABbwtEAABbwwH",
   "AABztZAABbwyOAABbijDAABizdVAABizeJAABiflBAABiflKAABbxgBAABbxgEAABcckCAABzxRAABbxlPAABbxlJAABbx",
   "mBAABbfiHAABbxmVAABbxmXAABbxnHAABbxoWAABjanCAABbxoVAABbxqZAABbxtRAABbxwNAABbxrFAABbxxDAABbxyTA",
   "ABbydBAABbxtBAABbxxQAABbxxSAABbxyIAABjawSAABjbiPAABjbcVAABbafBAABbyiZAABbyjBAABbykKAABjdtIAABb",
   "ynKAABjbzWAABbagZAABbahDAABjceZAABjcqCAABbahNAABbywMAABbywYAABbyxJAABbyxLAABbyzXAABbyyQAABbzdU",
   "AABbzcCAABbzhXAABbzeUAABbzhJAABbziKAABbalRAABbzlXAABbznDAABbamZAABbzqUAABbzqXAABjetBAABbzvJAAB",
   "bzvQAABbapHAABbzwSAABtzFAABjfpMAABjfwOAABbauOAABbauXAABcamYAABcapXAABcavYAABcbdTAABjhcQAABcbhB",
   "AABcbhXAABcblJAABcboXAABjibNAABhoyEAABcbsDAABcbrOAABcbtOAABhpgOAABcccIAABccgEAABjkoWAABjkpXAAB",
   "cctOAABccxDAABccyJAABjlcGAABccyTAABcdjSACBcdpVAABcdmIAABceaZAABcecBAABjmxMAABceqLAABbbwNAABces",
   "DAABjnmDAABbbzQAABcfcLAABbjmOAABcfgDAABjoxPAABjpfUAABbceWAABbcfEAABcfnKAABjpyWAABbchMAABjqeGAD",
   "BcfpBAABcfqFAABjqpIAABcfxIAABbcmLAABcgaBAABcgeXAABcgfYAABcgiGAABbcsKAABjsrGAABcgsWAABcheMAABch",
   "lTAABbdcGAABbddLAABchpVAABjuuOAABbddWAABjuwRAABjvgWAABjvlXAABcicXAABbdhMAABcifHAABcifMAABcifTA",
   "ABcigDAABcigKAABcihVAABjwtSbpdaOsLA"]

/-- The replacements that folding case does not give, in ascending order. -/
def replacements : Array Replacement :=
  (replacementsFrom replacementNumbers.length 0 replacementNumbers).toArray

/-- The number of rows that start at or below a code, by bisection between two places. -/
def countRows (code : Nat) : Nat → Nat → Nat → Nat
  | 0, low, _ => low
  | steps + 1, low, high =>
      if low < high then
        let middle := (low + high) / 2
        if (replacements[middle]?.map Replacement.first).getD 0 ≤ code then
          countRows code steps (middle + 1) high
        else countRows code steps low middle
      else low

def Replacement.codesFor? (row : Replacement) (code : Nat) : Option (List Nat) :=
  if code < row.first ∨ row.first + row.count ≤ code then none
  else if row.isConstant then some row.codes
  else some (row.codes.dropLast ++ (row.codes.getLast?.map (· + (code - row.first))).toList)

/-- What stands for a typed character in a name. -/
def hostCodes (c : Char) : List Nat :=
  let code := c.toNat
  let size := replacements.size
  match (replacements[countRows code (size.log2 + 1) 0 size - 1]?).bind (·.codesFor? code) with
  | some codes => codes
  | none => [Unicode.foldCase c]

end ApiContract.Format
