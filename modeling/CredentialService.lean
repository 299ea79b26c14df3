import CredentialService.Sequential.Regeneration
import CredentialService.Sequential.Allocation
import CredentialService.Concurrency.Serializable
import CredentialService.Concurrency.Serial
import CredentialService.Concurrency.Delete
import CredentialService.Concurrency.Batch
