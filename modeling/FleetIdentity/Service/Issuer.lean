import FleetIdentity.Error
import FleetIdentity.Pki.Issuance
import FleetIdentity.Registry.Organization

/-!
What the service needs of the certificate infrastructure, and what it takes from outside.
-/

namespace FleetIdentity

/-- What a registration takes from outside: an id that is not in use, and what issuing draws. -/
structure Fresh where
  id : String
  draw : Draw
  deriving DecidableEq, Repr

/-- Issues the certificates of organizations and devices. -/
structure Issuer where
  /-- The credential of an organization with a name and a country. -/
  issueOrganization : Draw → (name country : String) → Except PkiError IssuedCredential
  /-- The credential of a device with an id under the authority of its organization. -/
  issueDevice : Draw → Organization → (id : String) → Except PkiError IssuedCredential

/-- The issuer that makes certificates itself; `directory` is what the directory of the outside
authority holds. -/
def CertificateIssuer.toIssuer (i : CertificateIssuer) (directory : Directory) : Issuer where
  issueOrganization := i.issueOrganization directory
  issueDevice draw organization id := do
    let authority ←
      CertificateAuthority.ofPem i.suite organization.rootCert organization.rootKey i.naming
    i.issueDevice authority draw organization.name id

end FleetIdentity
