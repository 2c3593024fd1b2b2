import FlashBoot.Boot
import FlashBoot.Proofs.Catalog
import FlashBoot.Proofs.Device.Invariant
import FlashBoot.Proofs.Flash.LinearRead
import FlashBoot.Proofs.Flash.PagedCoverage
import FlashBoot.Proofs.Boot.Recovery
import FlashBoot.Proofs.Boot.Loading
import FlashBoot.Proofs.Boot.Bracketing
import FlashBoot.Proofs.Boot.Faults
import FlashBoot.Proofs.Boot.Traps
import FlashBoot.Proofs.Boot.Memory
import FlashBoot.Proofs.Boot.Diagnostics
import FlashBoot.Proofs.Boot.Changes
import FlashBoot.Proofs.Boot.Independence
import FlashBoot.Proofs.Boot.Rediscovery
import FlashBoot.Proofs.Flash.EraseOutcome
import FlashBoot.Proofs.Device.Decision
import FlashBoot.Proofs.Flash.BoundedRead
import FlashBoot.Proofs.Boot.Builds
import FlashBoot.Proofs.Bus.Exchange
import FlashBoot.Proofs.Catalog.Lookup
import FlashBoot.Proofs.Flash.StruckRead
import FlashBoot.Proofs.Image.Acceptance
import FlashBoot.Proofs.Flash.Polling
import FlashBoot.Proofs.Geometry.Translation
import FlashBoot.Proofs.Part.Capability
import FlashBoot.Proofs.Part.Numbers
import FlashBoot.Proofs.Boot.ReadLog
