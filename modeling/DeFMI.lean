import DeFMI.Boj.BusinessDay
import DeFMI.Boj.Conservation
import DeFMI.Boj.Coverage
import DeFMI.Boj.Updates
import DeFMI.Chain.Atomicity
import DeFMI.Chain.Submissions
import DeFMI.Clearing
import DeFMI.ContractMirror
import DeFMI.CrossDomainAudit
import DeFMI.Facility.Overlimit
import DeFMI.Facility.RelationWire
import DeFMI.NettingCover
import DeFMI.NoteHistory
import DeFMI.Participant.Runs
import DeFMI.PvpProtocol
import DeFMI.Register
import DeFMI.RingSampling
import DeFMI.SpendWire
import DeFMI.StateSyncWire
import DeFMI.Vetting
import DeFMI.Viewing
import DeFMI.Vm.AdmissionOrder
import DeFMI.Vm.ArmedLegs
import DeFMI.Vm.Claims
import DeFMI.Vm.Pools
import DeFMI.Vm.ReservationRuns
