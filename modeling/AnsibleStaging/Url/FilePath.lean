import AnsibleStaging.Path
import AnsibleStaging.Url.Reader

/-! The path on this host that the URL of a file names. -/

namespace AnsibleStaging
namespace Url

/-- A path that ends in a drive goes to the root of the drive. --/
def atDriveRoot (bytes : List UInt8) : List UInt8 :=
  match bytes.reverse with
  | mark :: letter :: _ :: _ =>
    if (drive? [Char.ofNat letter.toNat, Char.ofNat mark.toNat]).isSome then bytes ++ [0x2F] else bytes
  | _ => bytes

/-- The path that a URL without a host names, with its percent encoding undone. --/
def filePath? (u : Url) : Option Path :=
  match u.host, u.path with
  | none, .rooted segments =>
    let bytes := segments.flatMap fun s => 0x2F :: (Percent.decode s).toList
    some ⟨Utf8.lossy (atDriveRoot bytes).toByteArray⟩
  | _, _ => none

end Url
end AnsibleStaging
