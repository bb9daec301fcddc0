import ChannelLayer.Python
import ChannelLayer.Typed
import ChannelLayer.Backend.Memory
import ChannelLayer.Backend.Groups
import ChannelLayer.Backend.Delivery
import ChannelLayer.Backend.GroupSend
import ChannelLayer.Backend.Reset
import ChannelLayer.Backend.Registry
import ChannelLayer.Backend.ChannelName
import ChannelLayer.Middleware.Chain
import ChannelLayer.Middleware.RateLimit
import ChannelLayer.Consumer.Dispatch
import ChannelLayer.Consumer.ErrorFlow
import ChannelLayer.Consumer.Throttle
