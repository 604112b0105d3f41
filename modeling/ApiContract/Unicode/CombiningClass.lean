import ApiContract.Unicode.CodePointSet

/-!
Combining classes: the order of the marks after a base character. Characters of class zero are bases.
-/

namespace ApiContract.Unicode

/-- The characters of one combining class. -/
structure CombiningClass where
  value : Nat
  lines : List String

def combiningClasses : List CombiningClass := [
  ⟨1, ["bfOFjsDBNHbmNCEDKCDCdkjDBbkqGFbeyBBhwQD"]⟩,
  ⟨6, ["fjiUC"]⟩,
  ⟨7, ["dmYBeXBeXBeXBeXBjVBeXBbiGBeeEBgVBdCBcbpBBbnaKBhCBdIBeDBgWBdDCkFBeUBjSBjMBoWBkEBbnIBczgXB"]⟩,
  ⟨8, ["skNC"]⟩,
  ⟨9, ["dnPBeXBeXBeXBeXBeXBeXBeXBeFCQBeUBeHBeXBhTBgYCcpLCbEBgBBzDBiTBdXCcSCgqTBbukKBbLBfVBfMBeEB",
         "lXBjMBbjsRBchIBbPBOBcFBeRCfJBeMBgYBdUBeYDeJBeXBjSBeXBeOBeMBkJBjZCgFBdFBSBdDBqFBkACdDBqJC",
         "yzCB"]⟩,
  ⟨10, ["ceAB"]⟩,
  ⟨11, ["ceBB"]⟩,
  ⟨12, ["ceCB"]⟩,
  ⟨13, ["ceDB"]⟩,
  ⟨14, ["ceEB"]⟩,
  ⟨15, ["ceFB"]⟩,
  ⟨16, ["ceGB"]⟩,
  ⟨17, ["ceHB"]⟩,
  ⟨18, ["ceIBOB"]⟩,
  ⟨19, ["ceJC"]⟩,
  ⟨20, ["ceLB"]⟩,
  ⟨21, ["ceMB"]⟩,
  ⟨22, ["ceNB"]⟩,
  ⟨23, ["cePB"]⟩,
  ⟨24, ["ceRB"]⟩,
  ⟨25, ["ceSB"]⟩,
  ⟨26, ["drcOB"]⟩,
  ⟨27, ["cjZBbaAB"]⟩,
  ⟨28, ["ckABbaAB"]⟩,
  ⟨29, ["ckBBbaAB"]⟩,
  ⟨30, ["ciABcBB"]⟩,
  ⟨31, ["ciBBcBB"]⟩,
  ⟨32, ["ciCBcBB"]⟩,
  ⟨33, ["ckFB"]⟩,
  ⟨34, ["ckGB"]⟩,
  ⟨35, ["clKB"]⟩,
  ⟨36, ["crPB"]⟩,
  ⟨84, ["erLB"]⟩,
  ⟨91, ["erMB"]⟩,
  ⟨103, ["fkAC"]⟩,
  ⟨107, ["fkQE"]⟩,
  ⟨118, ["foYC"]⟩,
  ⟨122, ["fpOE"]⟩,
  ⟨129, ["fwBB"]⟩,
  ⟨130, ["fwCBHECB"]⟩,
  ⟨132, ["fwEB"]⟩,
  ⟨202, ["beVCECkcLB"]⟩,
  ⟨214, ["lhMB"]⟩,
  ⟨216, ["bePBepHBgomLCHF"]⟩,
  ⟨218, ["ljEBgxBB"]⟩,
  ⟨220, ["beKECFCECLFEKDDCEECCvUBEBEBGGCBbABfNCFBCBfBBGBCBcPBCBCDBCBBDBBBBBBBgNBKBdNDcJDbZFPBCBCBD",
         "DGBCCdJBceVCbBBBBfMBhQBdhLBiMBdYBcBGCBBCCCFBgFBnWFCENBiEBHBEBbPBDBBBbcQBDEbzpJDpABbfpQHb",
         "lNBiSBcsQBbSBgPBboGDcSCDBBEbYBBBcvlTIHChiWBjWBbcIH"]⟩,
  ⟨222, ["cdEBSBhkLBirZB"]⟩,
  ⟨224, ["sgKC"]⟩,
  ⟨226, ["gugRB"]⟩,
  ⟨228, ["cdYBheWBcaFCgxEB"]⟩,
  ⟨230, ["bdOVbOIBBDDDDEBDBHNkPFkGEBDCGGCBCCBUBcXIcHCCFBCePHCEBBCCCCcPBBCBCDBCBBDBBBBBBBCgEHBBbIEB",
         "JBDBFeBCDEbQFFOCCBCBDGDBCCFdDBBCgNBccHCCCblTDbsFBnKBiMBdPIbZFGCECCFBEgABBHnKDHCEBTBDChQC",
         "BHBCEbLFBCBbbTCCEDCEBFBBBGBeoCDjEbGbtpVBEKbGCdCCtASrEBBCDCFCBBbfoWHHCbzYFcmUBbOBgQBwCEcN",
         "FmFCfZDBBcBBBBoPDxNHDFiZBbgwVHbmtIFbGEfSDffFHBRCHBCBFdWBgEHoLBcJEtRBjUBbgVG"]⟩,
  ⟨232, ["beJBEBcJBkcBBgxHBgjkHC"]⟩,
  ⟨233, ["bhCBCBCBkbXB"]⟩,
  ⟨234, ["bhDCBCkaDB"]⟩,
  ⟨240, ["bgFB"]⟩]

def combiningSets : List (Nat × CodePointSet) :=
  combiningClasses.map fun entry => (entry.value, .ofLines entry.lines)

def combiningClass (code : Nat) : Nat :=
  ((combiningSets.find? fun (_, set) => set.containsCode code).map (·.1)).getD 0

/-- The class of the signs that join consonants. -/
def isVirama (code : Nat) : Bool := combiningClass code == 9

end ApiContract.Unicode
