import VmCell.Engine.Images

/-! The report on a registered image. -/

set_option autoImplicit false
namespace VmCell

open Interaction

variable (site : Site) (provider : String)

def emptyPath : PathBuf := ⟨"", []⟩

/-- The report on an image without exactly one variant of the provider. -/
def missingVariantReport (expectedFormat : String) (variants : List ImageVariant) :
    ImageValidationReport where
  path := (variants.head?.map (·.path)).getD emptyPath
  expectedFormat := expectedFormat
  observedFormat := none
  diskType := none
  parentPath := none
  fileSize := none
  virtualSize := none
  sha256 := none
  registeredSha256 := variants.head?.map (·.sha256)
  usable := false
  issues := [.registeredVariantMissing]

def validateRegisteredImage (imageId : ImageId) : Engine ImageValidationReport := do
  requireProviderAvailable provider
  let record : ImageRecord ← query (.loadImage imageId)
  match record.variants.filter fun variant => variant.provider = provider with
  | [variant] => validateImagePath site provider variant.path (some variant)
  | variants => do
      let expectedFormat ← Fallible.lift (providerImageFormat provider)
      pure (missingVariantReport expectedFormat variants)

end VmCell
