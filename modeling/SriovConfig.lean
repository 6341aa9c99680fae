import SriovConfig.PyText
import SriovConfig.PyRe
import SriovConfig.UdevRule
import SriovConfig.Rules
import SriovConfig.LegacyRules
import SriovConfig.PrimaryRules
import SriovConfig.System
import SriovConfig.Trace
import SriovConfig.Numvfs
import SriovConfig.Commands
import SriovConfig.UdevFiles
import SriovConfig.ConfigurePf
import SriovConfig.Cli
import SriovConfig.VfCalls
import SriovConfig.Observer
import SriovConfig.PfOrder
import SriovConfig.UdevTrigger
import SriovConfig.Frame
