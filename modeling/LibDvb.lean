import LibDvb.Ca.Transport.CommandResponse
import LibDvb.Ca.Transport.Reassembly
import LibDvb.Ca.Transport.Inbound
import LibDvb.Ca.Transport.Handshake
import LibDvb.Ca.Transport.Fragmentation
import LibDvb.Ca.Controller.ProgramQueue
import LibDvb.Ca.Controller.Suspension
import LibDvb.Ca.Controller.CamStatus
import LibDvb.Ca.Controller.Descrambling
import LibDvb.Ca.Controller.Hostile
import LibDvb.Ca.Controller.ResetLog
import LibDvb.Ca.Controller.Escalation
import LibDvb.Ca.Controller.Generation
import LibDvb.Ca.Controller.Deadline
import LibDvb.Ca.Session.Numbering
import LibDvb.Ca.Session.Agreement
import LibDvb.Ca.Session.Records
import LibDvb.Ca.Session.Atomicity
import LibDvb.Ca.Session.Chain
import LibDvb.Ca.Session.CaInfo
import LibDvb.Ca.Session.LatestInfo
import LibDvb.Ca.Tpdu.Grammar
import LibDvb.Ca.Overtaking
import LibDvb.Ca.Controller.Activation
import LibDvb.Ca.Driver.Cadence
import LibDvb.Ca.Driver.Drain
import LibDvb.Ca.Apdu.Iteration
import LibDvb.Ca.Resource.Menu
import LibDvb.Fe.Tune.Orbit
import LibDvb.Fe.Stats.Fallback
import LibDvb.Fe.Sec.Spelling
import LibDvb.Fe.Sec.Codec
import LibDvb.Modulator.Dd.ChannelPlan
import LibDvb.Modulator.Dd.Write
import LibDvb.Ca.Controller.Hearing
import LibDvb.Ca.Controller.Speech
import LibDvb.Ca.Driver.Descrambling
import LibDvb.Fe.Sec.Line
import LibDvb.Fe.Events
