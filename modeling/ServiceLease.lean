import ServiceLease.Lease.Builder
import ServiceLease.Lease.Markup
import ServiceLease.Registration.Document
import ServiceLease.Registration.Entry
import ServiceLease.Registration.Lease
import ServiceLease.Service.Catalogue
import ServiceLease.Proofs.Lease.BuilderHistory
import ServiceLease.Proofs.Lease.Transcode
import ServiceLease.Proofs.Registration.Document
import ServiceLease.Proofs.Registration.History
import ServiceLease.Proofs.Registration.Loaded
import ServiceLease.Proofs.Registration.Structure
import ServiceLease.Proofs.Lease.Wire
import ServiceLease.Proofs.Lease.Agreement
import ServiceLease.Proofs.Lease.BuilderCache
import ServiceLease.Proofs.Registration.Lifetime
import ServiceLease.Proofs.Lease.Readings
import ServiceLease.Proofs.Service.Loading
import ServiceLease.Proofs.Lease.Validation
import ServiceLease.Proofs.Lease.BuilderWrites
import ServiceLease.Proofs.Lease.BuilderNumbers
import ServiceLease.Proofs.Lease.Located
import ServiceLease.Proofs.Registration.Identifier
import ServiceLease.Proofs.Lease.Keywords
import ServiceLease.Proofs.Lease.Refusals
import ServiceLease.Proofs.Service.Description
