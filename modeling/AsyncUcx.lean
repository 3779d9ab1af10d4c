import AsyncUcx.Am.Data
import AsyncUcx.Am.Send
import AsyncUcx.Am.Msg
import AsyncUcx.Am.Lifecycle
import AsyncUcx.Am.Errors
import AsyncUcx.Am.Registry
import AsyncUcx.Am.Fifo
import AsyncUcx.Am.Delivery
import AsyncUcx.Am.Tasks
import AsyncUcx.Am.Unregister
import AsyncUcx.Am.Consumers
import AsyncUcx.Am.Notify
import AsyncUcx.Am.Executor
import AsyncUcx.Am.Descriptors
