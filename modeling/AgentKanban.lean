import AgentKanban.Basic
import AgentKanban.Utf8
import AgentKanban.FormUrlencoded
import AgentKanban.Remote.Shapes
import AgentKanban.Remote.Http
import AgentKanban.Remote.ElectricProxy
import AgentKanban.Remote.ShapeRoute
import AgentKanban.Remote.Rows
import AgentKanban.Mcp.Api
import AgentKanban.Mcp.Server
import AgentKanban.Mcp.Issues
import AgentKanban.Mcp.Tools
import AgentKanban.Mcp.Effects
import AgentKanban.Mcp.Atomicity
import AgentKanban.Mcp.Listing
import AgentKanban.Mcp.Startup
import AgentKanban.Mcp.Scoping
import AgentKanban.Mcp.Update
import AgentKanban.Mcp.Writes
