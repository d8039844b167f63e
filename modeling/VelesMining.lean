import VelesMining.Basic
import VelesMining.Util.Strencodings
import VelesMining.Primitives.Block
import VelesMining.Chain
import VelesMining.Rpc.NetworkHashPS
import VelesMining.Rpc.MiningStats
import VelesMining.Rpc.Info
import VelesMining.Rpc.Generate
import VelesMining.Rpc.HalvingInfo
import VelesMining.Rpc.FeeEstimate
import VelesMining.Rpc.Request
import VelesMining.Rpc.Template.Transactions
import VelesMining.Rpc.Template.VersionBits
import VelesMining.Rpc.Template.GetBlockTemplate
import VelesMining.Rpc.Template.Cache
import VelesMining.Rpc.Template.ServedVersion
import VelesMining.Rpc.Template.LongPoll
import VelesMining.Rpc.Submit
